import Provision.Settings
import Provision.Proofs.Toml
import Mathlib.Data.Option.Basic

/-!
What settings are read from a document: of each setting, the value that is given for it or else its default. Main
statement: `ofEntries?_eq_some`.
-/

set_option autoImplicit false

namespace Provision

namespace Channel

theorem ofName?_eq_some {s : String} {c : Channel} : ofName? s = some c ↔ c.name = s := by
  constructor
  · intro h
    unfold ofName? at h
    split at h
    · cases h
      exact (by assumption : s = "stable").symm
    · split at h
      · cases h
        exact (by assumption : s = "nightly").symm
      · cases h
  · rintro rfl
    exact ofName?_name c

theorem name_injective : Function.Injective name := fun c d h => by
  rw [← Option.some.injEq, ← ofName?_name c, h, ofName?_name]

end Channel

namespace Settings

theorem text?_eq_some (t : Toml) (s : String) : text? t = some s ↔ some (.text s.toList) = some t := by
  cases t with
  | text cs => simp [text?, ← String.toList_inj, eq_comm]
  | _ => simp [text?]

theorem textOption?_eq_some (t : Toml) (o : Option String) :
    (text? t).map some = some o ↔ (o.map fun s => Toml.text s.toList) = some t := by
  cases o with
  | none => simp
  | some s => simp [text?_eq_some]

theorem bool?_eq_some (t : Toml) (b : Bool) : bool? t = some b ↔ some (.bool b) = some t := by
  cases t with
  | bool c => simp [bool?, eq_comm]
  | _ => simp [bool?]

theorem word?_eq_some (t : Toml) (n : UInt64) : word? t = some n ↔ some (.integer n.toNat) = some t := by
  cases t with
  | integer i =>
    have hsize : (UInt64.size : Int) = 2 ^ 64 := rfl
    have hword (i : Int) (h : 0 ≤ i ∧ i < 2 ^ 64) : (i.toNat.toUInt64.toNat : Int) = i := by
      rw [Nat.toUInt64_eq, UInt64.toNat_ofNat', Nat.mod_eq_of_lt (by omega)]
      omega
    simp only [word?, hsize, Bool.and_eq_true, decide_eq_true_eq, Option.ite_none_right_eq_some, Option.some.injEq,
      Toml.integer.injEq]
    constructor
    · rintro ⟨hi, rfl⟩
      exact hword i hi
    · rintro rfl
      have hn := n.toNat_lt
      exact ⟨by omega, by simp⟩
  | _ => simp [word?]

theorem channel?_eq (t : Toml) : channel? t = match t.unwrapped with
    | .text cs => Channel.ofName? (String.ofList cs)
    | _ => none := by
  unfold channel?
  split
  · rfl
  · rfl
  · rfl
  · rename_i htext htable harray
    cases t with
    | text cs => exact absurd rfl (htext cs)
    | table m es =>
      match es with
      | [] | _ :: _ :: _ => rfl
      | [(k, v)] =>
        have hv : v.isBare = false := by
          unfold Toml.isBare
          split
          · exact absurd rfl (harray m k)
          · exact absurd rfl (htable m k _)
          · rfl
        simp [Toml.unwrapped_single, hv]
    | _ => rfl

theorem channel?_eq_some (t : Toml) (c : Channel) :
    channel? t = some c ↔ some (.text c.name.toList) = some t.unwrapped := by
  rw [channel?_eq]
  cases t.unwrapped with
  | text cs => simp [Channel.ofName?_eq_some, ← String.toList_inj]
  | _ => simp

theorem given_eq_some {α : Type} {f : Toml → Option α} {tell : α → Option Toml} {g : Toml → Toml}
    (hinj : Function.Injective tell) (hf : ∀ t v, f t = some v ↔ tell v = some (g t)) (d v : α) (o : Option Toml) :
    given f d o = some v ↔ tell v = o.elim (tell d) fun t => some (g t) := by
  cases o with
  | none => simp [given, hinj.eq_iff, eq_comm]
  | some t => exact hf t v

section Sections

variable {es : Toml.Entries}

def isSection : Option Toml → Bool
  | none | some (.table _ _) => true
  | _ => false

structure Sectioned (es : Toml.Entries) : Prop where
  updates : isSection (entry "updates" es) = true
  package : isSection (entry "package" es) = true

/-- The entries of a section. A section that is not there has none. -/
def inside (name : String) (es : Toml.Entries) : Toml.Entries :=
  match entry name es with
  | some (.table _ inner) => inner
  | _ => []

theorem given_section {α : Type} {f : Toml → Option α} {d : α} {name : String}
    (hs : isSection (entry name es) = true) (hempty : f (.table .closed []) = some d)
    (hmark : ∀ m inner, f (.table m inner) = f (.table .closed inner)) :
    given f d (entry name es) = f (.table .closed (inside name es)) := by
  unfold inside
  cases h : entry name es with
  | none => exact hempty.symm
  | some t =>
    cases t with
    | table m inner => exact hmark m inner
    | _ => simp [h, isSection] at hs

theorem updates?_eq_some {m : Toml.Mark} {u : Updates} :
    updates? (.table m es) = some u ↔ skips ["channel", "ask_before_download", "check_interval_secs"] es = true ∧
      given channel? Updates.default.channel (entry "channel" es) = some u.channel ∧
      given bool? Updates.default.ask (entry "ask_before_download" es) = some u.ask ∧
      given word? Updates.default.interval (entry "check_interval_secs" es) = some u.interval := by
  by_cases hskip : skips ["channel", "ask_before_download", "check_interval_secs"] es = true
  · simp only [updates?, members?, hskip, if_true, Option.bind_eq_bind, Option.bind_some, Option.pure_def,
      Option.bind_eq_some_iff, Option.some.injEq, true_and]
    constructor
    · rintro ⟨c, hc, a, ha, i, hi, rfl⟩
      exact ⟨hc, ha, hi⟩
    · rintro ⟨hc, ha, hi⟩
      exact ⟨_, hc, _, ha, _, hi, rfl⟩
  · simp [updates?, members?, hskip]

theorem package?_eq_some {m : Toml.Mark} {p : Package} :
    package? (.table m es) = some p ↔ skips ["version", "release_tag"] es = true ∧
      given text? Package.default.version (entry "version" es) = some p.version ∧
      given (fun t => (text? t).map some) none (entry "release_tag" es) = some p.releaseTag := by
  by_cases hskip : skips ["version", "release_tag"] es = true
  · simp only [package?, members?, hskip, if_true, Option.bind_eq_bind, Option.bind_some, Option.pure_def,
      Option.bind_eq_some_iff, Option.some.injEq, true_and]
    constructor
    · rintro ⟨v, hv, r, hr, rfl⟩
      exact ⟨hv, hr⟩
    · rintro ⟨hv, hr⟩
      exact ⟨_, hv, _, hr, rfl⟩
  · simp [package?, members?, hskip]

theorem ofEntries?_eq_some {s : Settings} :
    ofEntries? es = some s ↔ skips ["server_path", "storage_dir", "updates", "package"] es = true ∧
      given (fun t => (text? t).map some) none (entry "server_path" es) = some s.serverPath ∧
      given (fun t => (text? t).map some) none (entry "storage_dir" es) = some s.storageDir ∧
      given updates? .default (entry "updates" es) = some s.updates ∧
      given package? .default (entry "package" es) = some s.package := by
  by_cases hskip : skips ["server_path", "storage_dir", "updates", "package"] es = true
  · simp only [ofEntries?, hskip, if_true, Option.bind_eq_bind, Option.pure_def, Option.bind_eq_some_iff,
      Option.some.injEq, true_and]
    constructor
    · rintro ⟨p, hp, d, hd, u, hu, q, hq, rfl⟩
      exact ⟨hp, hd, hu, hq⟩
    · rintro ⟨hp, hd, hu, hq⟩
      exact ⟨_, hp, _, hd, _, hu, _, hq, rfl⟩
  · simp [ofEntries?, hskip]

/-- Whatever else stands in a document is skipped. -/
structure Skipped (es : Toml.Entries) : Prop where
  root : skips ["server_path", "storage_dir", "updates", "package"] es = true
  updates : skips ["channel", "ask_before_download", "check_interval_secs"] (inside "updates" es) = true
  package : skips ["version", "release_tag"] (inside "package" es) = true

theorem entriesReadable_iff : entriesReadable es = true ↔ ∀ e ∈ es, isReadable e.2 = true := by
  induction es with
  | nil => simp [entriesReadable]
  | cons e es ih => simp [entriesReadable, ih]

theorem skips_of_readable (known : List String) (h : entriesReadable es = true) : skips known es = true :=
  List.all_eq_true.mpr fun e he => by rw [entriesReadable_iff.mp h e he, Bool.or_true]

theorem readable_inside (name : String) (h : entriesReadable es = true) : entriesReadable (inside name es) = true := by
  unfold inside
  split
  · rename_i m inner hentry
    obtain ⟨before, after, rfl, -⟩ := List.lookup_eq_some_iff.mp hentry
    simpa [isReadable] using entriesReadable_iff.mp h (name.toList, .table m inner) (by simp)
  · rfl

theorem skipped_of_readable (h : entriesReadable es = true) : Skipped es where
  root := skips_of_readable _ h
  updates := skips_of_readable _ (readable_inside _ h)
  package := skips_of_readable _ (readable_inside _ h)

end Sections

end Settings

inductive Setting where
  | serverPath
  | storageDir
  | channel
  | ask
  | interval
  | version
  | releaseTag
  deriving DecidableEq, Repr

namespace Setting

open Settings (entry inside)

def name : Setting → String
  | .serverPath => "server_path"
  | .storageDir => "storage_dir"
  | .channel => "channel"
  | .ask => "ask_before_download"
  | .interval => "check_interval_secs"
  | .version => "version"
  | .releaseTag => "release_tag"

def section? : Setting → Option String
  | .serverPath | .storageDir => none
  | .channel | .ask | .interval => some "updates"
  | .version | .releaseTag => some "package"

def given? (es : Toml.Entries) (k : Setting) : Option Toml := entry k.name (k.section?.elim es (inside · es))

def told (s : Settings) : Setting → Option Toml
  | .serverPath => s.serverPath.map fun p => .text p.toList
  | .storageDir => s.storageDir.map fun p => .text p.toList
  | .channel => some (.text s.updates.channel.name.toList)
  | .ask => some (.bool s.updates.ask)
  | .interval => some (.integer s.updates.interval.toNat)
  | .version => some (.text s.package.version.toList)
  | .releaseTag => s.package.releaseTag.map fun t => .text t.toList

def spelled (t : Toml) : Setting → Toml
  | .channel => t.unwrapped
  | _ => t

/-- What settings that are read from a document have to say of it: the value that is given, or else what the
defaults say. -/
def due (es : Toml.Entries) (k : Setting) : Option Toml :=
  (k.given? es).elim (k.told .default) fun t => some (k.spelled t)

theorem forall_iff {P : Setting → Prop} :
    (∀ k, P k) ↔ P .serverPath ∧ P .storageDir ∧ P .channel ∧ P .ask ∧ P .interval ∧ P .version ∧ P .releaseTag := by
  constructor
  · intro h
    exact ⟨h _, h _, h _, h _, h _, h _, h _⟩
  · rintro ⟨hp, hd, hc, ha, hi, hv, hr⟩ k
    cases k <;> assumption

theorem text_injective : Function.Injective fun s : String => Toml.text s.toList := fun _ _ h =>
  String.toList_inj.mp (Toml.text.inj h)

theorem integer_injective : Function.Injective fun n : UInt64 => Toml.integer n.toNat := fun _ _ h =>
  UInt64.toNat_inj.mp (Int.ofNat.inj (Toml.integer.inj h))

theorem some_injective {α : Type} {f : α → Toml} (hf : Function.Injective f) : Function.Injective fun a => some (f a) :=
  (Option.some_injective _).comp hf

theorem told_isPlain {s : Settings} {k : Setting} {t : Toml} (h : k.told s = some t) : t.isPlain = true := by
  cases k with
  | serverPath | storageDir | releaseTag =>
    obtain ⟨p, -, rfl⟩ := Option.map_eq_some_iff.mp h
    rfl
  | _ =>
    cases h
    rfl

theorem told_eq_due_iff {es es' : Toml.Entries} {k : Setting} (h : Option.Rel Toml.Same (k.given? es) (k.given? es'))
    (s : Settings) : k.told s = k.due es ↔ k.told s = k.due es' := by
  unfold due
  generalize k.given? es = o, k.given? es' = o' at h ⊢
  cases h with
  | none => exact .rfl
  | @some t t' h =>
    have hspelled : (k.spelled t).Same (k.spelled t') := by
      cases k with
      | channel => exact h.unwrapped
      | _ => exact h
    cases hk : k.told s with
    | none => simp
    | some p => simpa using hspelled.eq_plain_iff (told_isPlain hk)

end Setting

namespace Settings

open Setting

theorem ofEntries?_eq_some_iff {es : Toml.Entries} (hs : Sectioned es) {s : Settings} :
    ofEntries? es = some s ↔ Skipped es ∧ ∀ k : Setting, k.told s = k.due es := by
  have htext := some_injective text_injective
  have htexts := Option.map_injective text_injective
  have hnames := some_injective (text_injective.comp Channel.name_injective)
  have hbools := some_injective fun _ _ => Toml.bool.inj
  have hwords := some_injective integer_injective
  have hupdates := given_section (f := updates?) (d := .default) hs.updates (by decide) fun _ _ => rfl
  have hpackage := given_section (f := package?) (d := .default) hs.package (by decide) fun _ _ => rfl
  have hpath := given_eq_some htexts textOption?_eq_some none s.serverPath (entry "server_path" es)
  have hdir := given_eq_some htexts textOption?_eq_some none s.storageDir (entry "storage_dir" es)
  have hchannel := given_eq_some hnames channel?_eq_some Updates.default.channel s.updates.channel
    (entry "channel" (inside "updates" es))
  have hask := given_eq_some hbools bool?_eq_some Updates.default.ask s.updates.ask
    (entry "ask_before_download" (inside "updates" es))
  have hinterval := given_eq_some hwords word?_eq_some Updates.default.interval s.updates.interval
    (entry "check_interval_secs" (inside "updates" es))
  have hversion := given_eq_some htext text?_eq_some Package.default.version s.package.version
    (entry "version" (inside "package" es))
  have htag := given_eq_some htexts textOption?_eq_some none s.package.releaseTag
    (entry "release_tag" (inside "package" es))
  -- setting by setting, told and due are the same as given and read
  rw [ofEntries?_eq_some, hupdates, hpackage, updates?_eq_some, package?_eq_some, hpath, hdir, hchannel, hask, hinterval,
    hversion, htag, Setting.forall_iff]
  constructor
  · rintro ⟨hroot, hp, hd, ⟨hu, hc, ha, hi⟩, hk, hv, hr⟩
    exact ⟨⟨hroot, hu, hk⟩, hp, hd, hc, ha, hi, hv, hr⟩
  · rintro ⟨⟨hroot, hu, hk⟩, hp, hd, hc, ha, hi, hv, hr⟩
    exact ⟨hroot, hp, hd, ⟨hu, hc, ha, hi⟩, hk, hv, hr⟩

end Settings

end Provision
