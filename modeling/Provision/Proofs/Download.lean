import Provision.Download
import Provision.Proofs.Berth
import Provision.Proofs.Disk.Temp
import Provision.Proofs.Http

/-!
Downloading a file: the destination is the complete body of the last answer, or nothing has changed but for
directories that were missing on the way to it. How the body comes in pieces makes no difference.
-/

set_option autoImplicit false

namespace Provision.Download

open Disk (Rewritten)

variable {cwd place : Place} {dir dest temp : Path} {n : Name} {d d' t : Disk} {es : List (Event kernel Disk)}

/-- Nothing is gone, and what is new are directories on the way to one. -/
structure Grown (cwd : Place) (dir : Path) (d d' : Disk) : Prop where
  sound : d'.Sound
  kept : ∀ p v, d.get? p = some v → d'.get? p = some v
  made : ∀ p v, d.get? p = none → d'.get? p = some v → v = .dir ∧ ∃ a ∈ dir.ancestors, d'.enters cwd a = .ok p

namespace Grown

theorem refl (h : d.Sound) : Grown cwd dir d d where
  sound := h
  kept := fun _ _ hv => hv
  made := fun p v hn hv => by
    rw [hn] at hv
    cases hv

theorem makeDir (h : Grown cwd dir d t) {a : Path} (ha : a ∈ dir.ancestors) (hm : t.makeDir cwd a = .ok d') :
    Grown cwd dir d d' := by
  obtain ⟨place, n, slash, hh, hnone, rfl⟩ := Disk.makeDir_eq_ok hm
  obtain ⟨-, before, hs, hw, hdir, h₁, h₂, hlen, -⟩ := Disk.holder_name.mp hh
  have hadded := Disk.Added.put h.sound hdir hnone
  refine ⟨hadded.sound, fun p v hv => hadded.kept (h.kept p v hv), fun p v hn hv => ?_⟩
  by_cases hp : p = n :: place
  · subst hp
    obtain rfl : .dir = v := Option.some.inj (hadded.dir.symm.trans hv)
    refine ⟨rfl, a, ha, ?_⟩
    rw [Disk.enters, hs]
    exact hadded.walk hdir h₁ h₂ hlen hw
  · rw [hadded.same p hp] at hv
    obtain ⟨rfl, b, hb, he⟩ := h.made p v hn hv
    exact ⟨rfl, b, hb, hadded.roads.walkFrom he hv⟩

theorem of_makeDirs (h : d.Sound) {o : Option (Except Fault Unit)}
    (hc : (Kernel.makeDirs dir).Course (Kernel.strict cwd) d es o d') : Grown cwd dir d d' :=
  Kernel.makeDirs_keeps (fun _ ha => ha) (fun ha _ ht hm => ht.makeDir ha hm) (refl h)
    (hc.mono fun _ _ _ _ => Kernel.strict_law)

end Grown

def gathered (data : ByteArray) (pieces : List ByteArray) : ByteArray := pieces.foldl (· ++ ·) data

theorem course_write {x : Place} {s m : Nat} {data piece : ByteArray} {wrap : Fault → Error} (ht : t.Sound)
    (hv : t.get? x = some (.file s m data)) {r : Except Error Unit}
    (hc : (Attempt.plan (Attempt.ofReply (Kernel.write (.file s) piece) wrap)).Course (Kernel.strict cwd) t es (some r) d') :
    Rewritten x t d' ∧ d'.HasFile x ∧ ∀ u, r = .ok u → d'.get? x = some (.file s m (data ++ piece)) := by
  obtain ⟨o', hcall, ho⟩ := Attempt.of_ofReply hc
  obtain ⟨rfl, -⟩ | ⟨r', rfl, -, hl⟩ := hcall.of_call
  · cases ho
  obtain ⟨rfl, hw⟩ | ⟨e, rfl, rfl | ⟨part, rest, -, hw⟩⟩ := hl
  · obtain ⟨hr, hget⟩ := Rewritten.write ht hv hw
    exact ⟨hr, ⟨s, m, _, hget⟩, fun _ _ => hget⟩
  · cases ho
    exact ⟨.refl ht, ⟨s, m, data, hv⟩, nofun⟩
  · cases ho
    obtain ⟨hr, hget⟩ := Rewritten.write ht hv hw
    exact ⟨hr, ⟨s, m, _, hget⟩, nofun⟩

theorem course_writeAll {x : Place} {s m k : Nat} {data : ByteArray} {pieces : List ByteArray} (ht : t.Sound)
    (hv : t.get? x = some (.file s m data)) {r : Except Error Nat}
    (hc : (writeAll (.file s) pieces k).plan.Course (Kernel.strict cwd) t es (some r) d') :
    Rewritten x t d' ∧ d'.HasFile x ∧ ∀ k', r = .ok k' → d'.get? x = some (.file s m (gathered data pieces)) := by
  induction pieces generalizing t data k es with
  | nil =>
    obtain ⟨rfl, ho, rfl⟩ := Plan.Course.of_done hc
    exact ⟨.refl ht, ⟨s, m, data, hv⟩, fun _ _ => hv⟩
  | cons piece rest ih =>
    rw [writeAll] at hc
    obtain ⟨e, ho, hwrite⟩ | ⟨u, t', _, _, -, hwrite, hrest⟩ := Attempt.of_bind_some hc
    · cases ho
      obtain ⟨hr, hfile, -⟩ := course_write ht hv hwrite
      exact ⟨hr, hfile, nofun⟩
    · obtain ⟨hr, -, hget⟩ := course_write ht hv hwrite
      obtain ⟨hr', hfile, hall⟩ := ih hr.sound (hget u rfl) hrest
      exact ⟨hr.trans hr', hfile, hall⟩

def dress (temp : Path) : Option Nat → Kernel.Work Error Unit
  | some mode => Attempt.ofReply (Kernel.setMode temp mode) (.io "failed to set permissions")
  | none => pure ()

theorem fill_eq (url : String) (dest : Path) (mode : Option Nat) (temp : Path) (h : Handle) (body : Http.Body) :
    fill url dest mode temp h body = (do
      let k ← writeAll h body.pieces 0
      ExceptT.mk (.done (settle url body.ending))
      Attempt.ofReply (Kernel.flush h) (.io "failed to flush download")
      Attempt.ofReply (Kernel.sync h) (.io "failed to sync download")
      dress temp mode
      Attempt.ofReply (Kernel.rename temp dest) (.io ("failed to move download to " ++ dest.text))
      return k) := by
  cases mode <;> rfl

theorem course_dress {mode : Option Nat} {s m : Nat} {data : ByteArray} (ht : t.Sound)
    (hh : t.holder cwd temp = .ok (place, .name n false)) (hv : t.get? (n :: place) = some (.file s m data))
    {r : Except Error Unit} (hc : (dress temp mode).plan.Course (Kernel.strict cwd) t es (some r) d') :
    Rewritten (n :: place) t d' ∧ d'.HasFile (n :: place) ∧
      ∀ u, r = .ok u → d'.get? (n :: place) = some (.file s (mode.getD m) data) := by
  cases mode with
  | none =>
    obtain ⟨rfl, -, rfl⟩ := Plan.Course.of_done hc
    exact ⟨.refl ht, ⟨s, m, data, hv⟩, fun _ _ => hv⟩
  | some mode =>
    obtain ⟨o', hcall, ho⟩ := Attempt.of_ofReply hc
    obtain ⟨rfl, -⟩ | ⟨r', rfl, -, hl⟩ := hcall.of_call
    · cases ho
    obtain ⟨e, rfl, rfl⟩ | ⟨u, rfl, hm⟩ := hl
    · cases ho
      exact ⟨.refl ht, ⟨s, m, data, hv⟩, nofun⟩
    · obtain ⟨hr, hget⟩ := Disk.setMode_eq_ok ht hh hv hm
      exact ⟨hr, ⟨s, mode, data, hget⟩, fun _ _ => hget⟩

theorem course_steady {step : Handle → Plan kernel (Except Fault Unit)} (hstep : step = Kernel.flush ∨ step = Kernel.sync)
    {wrap : Fault → Error} {hnd : Handle} {r : Except Error Unit}
    (hc : (Attempt.plan (Attempt.ofReply (step hnd) wrap)).Course (Kernel.strict cwd) t es (some r) d') : d' = t := by
  obtain ⟨o', hcall, ho⟩ := Attempt.of_ofReply hc
  obtain rfl | rfl := hstep
  all_goals
    obtain ⟨rfl, -⟩ | ⟨r', rfl, -, hl⟩ := hcall.of_call
    · cases ho
    · exact hl.1

theorem course_rename {wrap : Fault → Error} {p q : Path} {r : Except Error Unit}
    (hc : (Attempt.plan (Attempt.ofReply (Kernel.rename p q) wrap)).Course (Kernel.strict cwd) t es (some r) d') :
    ((∃ e, r = .error e) ∧ d' = t) ∨ (r = .ok () ∧ t.rename cwd p q = .ok d') := by
  obtain ⟨o', hcall, ho⟩ := Attempt.of_ofReply hc
  obtain ⟨rfl, -⟩ | ⟨r', rfl, -, hl⟩ := hcall.of_call
  · cases ho
  obtain ⟨e, rfl, rfl⟩ | ⟨u, rfl, hr⟩ := hl
  · exact .inl ⟨⟨_, Option.some.inj ho⟩, rfl⟩
  · exact .inr ⟨Option.some.inj ho, hr⟩

theorem course_fill {url : String} {mode : Option Nat} {body : Http.Body} {s : Nat} (ht : t.Sound)
    (hh : t.holder cwd temp = .ok (place, .name n false))
    (hv : t.get? (n :: place) = some (.file s Disk.privateMode ByteArray.empty)) {r : Except Error Nat}
    (hc : (fill url dest mode temp (.file s) body).plan.Course (Kernel.strict cwd) t es (some r) d') :
    (∃ e, r = .error e ∧ Rewritten (n :: place) t d' ∧ d'.HasFile (n :: place)) ∨
      ∃ k t', r = .ok k ∧ body.ending = .complete ∧ Rewritten (n :: place) t t' ∧
        t'.get? (n :: place) = some (.file s (mode.getD Disk.privateMode) body.bytes) ∧ t'.rename cwd temp dest = .ok d' := by
  -- one step after the other: each has failed and left the private file, or the next one follows
  rw [fill_eq] at hc
  obtain ⟨e, ho, hwrite⟩ | ⟨k, t₁, _, _, -, hwrite, hc₁⟩ := Attempt.of_bind_some hc
  · cases ho
    obtain ⟨hr, hfile, -⟩ := course_writeAll ht hv hwrite
    exact .inl ⟨e, rfl, hr, hfile⟩
  obtain ⟨hr₁, hfile₁, hget₁⟩ := course_writeAll ht hv hwrite
  have hv₁ := hget₁ k rfl
  obtain ⟨e, ho, hsettle⟩ | ⟨_, t₂, _, _, -, hsettle, hc₂⟩ := Attempt.of_bind_some hc₁
  · cases ho
    obtain ⟨-, -, rfl⟩ := Plan.Course.of_done hsettle
    exact .inl ⟨e, rfl, hr₁, hfile₁⟩
  obtain ⟨-, hended, rfl⟩ := Plan.Course.of_done hsettle
  have hcomplete : body.ending = .complete := by
    cases he : body.ending with
    | complete => rfl
    | cut => simp [he, settle] at hended
    | silence => simp [he, settle] at hended
  obtain ⟨e, ho, hflush⟩ | ⟨_, t₃, _, _, -, hflush, hc₃⟩ := Attempt.of_bind_some hc₂
  · cases ho
    obtain rfl := course_steady (.inl rfl) hflush
    exact .inl ⟨e, rfl, hr₁, hfile₁⟩
  obtain rfl := course_steady (.inl rfl) hflush
  obtain ⟨e, ho, hsync⟩ | ⟨_, t₄, _, _, -, hsync, hc₄⟩ := Attempt.of_bind_some hc₃
  · cases ho
    obtain rfl := course_steady (.inr rfl) hsync
    exact .inl ⟨e, rfl, hr₁, hfile₁⟩
  obtain rfl := course_steady (.inr rfl) hsync
  have hh₁ := hr₁.roads.holder hh
  obtain ⟨e, ho, hdress⟩ | ⟨u, t₅, _, _, -, hdress, hc₅⟩ := Attempt.of_bind_some hc₄
  · cases ho
    obtain ⟨hr, hfile, -⟩ := course_dress hr₁.sound hh₁ hv₁ hdress
    exact .inl ⟨e, rfl, hr₁.trans hr, hfile⟩
  obtain ⟨hr₂, hfile₂, hget₂⟩ := course_dress hr₁.sound hh₁ hv₁ hdress
  have hr := hr₁.trans hr₂
  obtain ⟨e, ho, hrename⟩ | ⟨_, t₆, _, _, -, hrename, hc₆⟩ := Attempt.of_bind_some hc₅
  · cases ho
    obtain ⟨-, rfl⟩ | ⟨hr', -⟩ := course_rename hrename
    · exact .inl ⟨e, rfl, hr, hfile₂⟩
    · cases hr'
  · obtain ⟨-, ho, rfl⟩ := Plan.Course.of_done hc₆
    obtain ⟨⟨e, he⟩, -⟩ | ⟨-, hren⟩ := course_rename hrename
    · cases he
    · exact .inr ⟨k, t₅, Option.some.inj ho, hcomplete, hr, hget₂ u rfl, hren⟩

/-- A file with certain bytes and mode bits has the last name of a path, nothing else is changed, and the path leads
to the file unless it went by a link in its place. -/
def Placed (cwd : Place) (dest : Path) (mode : Option Nat) (bytes : ByteArray) (d d' : Disk) : Prop :=
  ∃ place n serial, d.holder cwd dest = .ok (place, .name n false) ∧
    d'.get? (n :: place) = some (.file serial (mode.getD Disk.privateMode) bytes) ∧
    (∀ p, p ≠ n :: place → d'.get? p = d.get? p) ∧
    ((d.erase (n :: place)).holder cwd dest = .ok (place, .name n false) →
      d'.find cwd dest = .ok (n :: place, .file serial (mode.getD Disk.privateMode) bytes))

theorem placed_of_rename {mode : Option Nat} {bytes : ByteArray} {s : Nat} (hnone : d.get? (n :: place) = none)
    (hr : Rewritten (n :: place) d t) (hh : d.holder cwd temp = .ok (place, .name n false))
    (hv : t.get? (n :: place) = some (.file s (mode.getD Disk.privateMode) bytes)) (hren : t.rename cwd temp dest = .ok d') :
    Placed cwd dest mode bytes d d' := by
  -- nothing was at the place of the new file, so it has no second name
  have hlone := Disk.lone_of_none hnone
  obtain ⟨place', n', hdest, ⟨hsame, rfl⟩ | ⟨hne, -, -, hmoved⟩⟩ :=
    Disk.moved_of_rename hr.sound (hr.roads.holder hh) hv rfl hren
  · obtain ⟨rfl, rfl⟩ := List.cons.inj (hsame.elim id fun htwins => (hr.lone hlone _ htwins).symm)
    exact ⟨place, n, s, hr.roads_back.holder hdest, hv, fun p => hr.other hlone, fun _ => Disk.find_of_holder hdest hv (by simp)⟩
  · have hnew := hmoved.arrived.trans hv
    have hrest : ∀ p, p ≠ n' :: place' → d'.get? p = d.get? p := by
      intro p hp
      by_cases hx : p = n :: place
      · subst hx
        exact hmoved.left.trans hnone.symm
      · exact (hmoved.same p hx hp).trans (hr.other hlone hx)
    refine ⟨place', n', s, hr.roads_back.holder hdest, hnew, hrest, fun hway => ?_⟩
    have hroads : Disk.Roads (d.erase (n' :: place')) d' := by
      intro p v hpv _
      rw [Disk.get?_erase _ (by simp)] at hpv
      split at hpv
      · cases hpv
      · rename_i hp
        exact (hrest p hp).trans hpv
    exact Disk.find_of_holder (hroads.holder hway) hnew (by simp)

theorem course_keep {url : String} {mode : Option Nat} {body : Http.Body} (hd : d.Sound) {r : Except Error Unit}
    (hc : (keep url dir dest mode body).plan.Course (Kernel.strict cwd) d es (some r) d') :
    (∃ e, r = .error e ∧ ∀ p, d'.get? p = d.get? p) ∨
      (r = .ok () ∧ body.ending = .complete ∧ Placed cwd dest mode body.bytes d d') := by
  have hstem : Path.Plain tempStem := by decide
  rw [keep] at hc
  obtain ⟨e, ho, hcreate⟩ | ⟨⟨temp, hnd⟩, t, _, _, -, hcreate, hrest⟩ := Attempt.of_bind_some hc
  · cases ho
    obtain ⟨o', hcall, ho⟩ := Attempt.of_ofReply hcreate
    obtain ⟨rfl, -⟩ | ⟨r', rfl, -, hl⟩ := hcall.of_call
    · cases ho
    obtain ⟨e', rfl, rfl⟩ | ⟨_, rfl, -⟩ := hl
    · exact .inl ⟨e, rfl, fun _ => rfl⟩
    · cases ho
  obtain ⟨o', hcall, ho⟩ := Attempt.of_ofReply hcreate
  obtain ⟨rfl, -⟩ | ⟨r', rfl, -, hl⟩ := hcall.of_call
  · cases ho
  obtain ⟨e', rfl, -⟩ | ⟨a, rfl, htemp⟩ := hl
  · cases ho
  cases ho
  obtain ⟨n, place, hh, hnone, rfl, hr, hv⟩ := Disk.createTemp_eq_ok hd hstem (by decide) htemp
  have hh' := hr.roads.holder hh
  change Plan.Course _ (Plan.bind (fill url dest mode temp (.file d.next) body).plan _) _ _ _ _ at hrest
  obtain ⟨r₁, t₁, _, _, -, hfill, hend⟩ := hrest.of_bind_some
  obtain ⟨e, rfl, hr₁, hfile⟩ | ⟨k, t', rfl, hcomplete, hr', hv', hren⟩ := course_fill hr.sound hh' hv hfill
  · -- the new file is still there, and removing it leaves the disk as it was before
    obtain ⟨_, t₂, _, -, hl, hdone⟩ := Plan.Course.of_ask_some hend
    obtain ⟨-, ho, rfl⟩ := Plan.Course.of_done hdone
    refine .inl ⟨e, Option.some.inj ho, fun p => ?_⟩
    have hunlink := Disk.unlink_file (hr₁.roads.holder hh') hfile
    obtain ⟨e', -, herr, -⟩ | ⟨-, hok⟩ := hl
    · rw [hunlink] at herr
      cases herr
    · obtain rfl : t₁.erase (n :: place) = d' := Except.ok.inj (hunlink.symm.trans hok)
      rw [Disk.get?_erase _ (by simp)]
      split
      · rename_i hp
        rw [hp, hnone]
      · rename_i hp
        have hlone := Disk.lone_of_none hnone
        exact (hr₁.other (hr.lone hlone) hp).trans (hr.other hlone hp)
  · obtain ⟨_, t₂, _, -, rfl, hdone⟩ := Plan.Course.of_ask_some hend
    obtain ⟨-, ho, rfl⟩ := Plan.Course.of_done hdone
    exact .inr ⟨Option.some.inj ho, hcomplete, placed_of_rename hnone (hr.trans hr') hh hv' hren⟩

theorem file_eq {agent : Option String} {url : String} {mode : Option Nat} (h : dest.parent? = some dir) :
    file agent url dest mode = (do
      Attempt.ofReply (Kernel.makeDirs dir) (.io ("failed to create " ++ dir.text))
      let r ← Attempt.ofReply (Http.get false (headers agent) url) .http
      if isError r.status then throw (.http (.status r.status r.url.text)) else keep url dir dest mode r.body) := by
  unfold file
  rw [h]
  simp

theorem gathered_eq (data : ByteArray) (pieces : List ByteArray) :
    gathered data pieces = data ++ gathered ByteArray.empty pieces := by
  induction pieces generalizing data with
  | nil => simp [gathered]
  | cons piece rest ih =>
    have hfirst : ∀ x, gathered x (piece :: rest) = gathered (x ++ piece) rest := fun _ => rfl
    rw [hfirst, hfirst, ih, ih (ByteArray.empty ++ piece), ByteArray.empty_append, ByteArray.append_assoc]

theorem gathered_cons (piece : ByteArray) (rest : List ByteArray) :
    gathered ByteArray.empty (piece :: rest) = piece ++ gathered ByteArray.empty rest := by
  have hfirst : gathered ByteArray.empty (piece :: rest) = gathered (ByteArray.empty ++ piece) rest := rfl
  rw [hfirst, ByteArray.empty_append, gathered_eq]

theorem run_writeAll (m : Machine) (s k : Nat) (pieces : List ByteArray) :
    m.run (writeAll (.file s) pieces k).plan =
      (.ok (k + (gathered ByteArray.empty pieces).size),
        { m with disk := m.disk.revise s (· ++ gathered ByteArray.empty pieces) }) := by
  induction pieces generalizing m k with
  | nil =>
    have hnone : m.disk.revise s (· ++ gathered ByteArray.empty []) = m.disk := by
      have hid : (· ++ gathered ByteArray.empty []) = (id : ByteArray → ByteArray) := by
        funext x
        simp [gathered]
      rw [hid, Disk.revise_id]
    rw [hnone]
    rfl
  | cons piece rest ih =>
    have hstep : m.run (writeAll (.file s) (piece :: rest) k).plan =
        Machine.run { m with disk := m.disk.revise s (· ++ piece) } (writeAll (.file s) rest (k + piece.size)).plan := rfl
    have hboth : (· ++ gathered ByteArray.empty rest) ∘ (· ++ piece) =
        fun x : ByteArray => x ++ gathered ByteArray.empty (piece :: rest) := by
      funext x
      simp [gathered_cons, ByteArray.append_assoc]
    rw [hstep, ih, Disk.revise_revise, hboth, gathered_cons, ByteArray.size_append, Nat.add_assoc]

theorem offline_writeAll (h : Handle) (pieces : List ByteArray) (k : Nat) :
    (writeAll h pieces k).plan.Uses (I := kernel) Kernel.Offline := by
  induction pieces generalizing k with
  | nil => exact trivial
  | cons piece rest ih => exact Attempt.uses_bind (Attempt.uses_ofReply ⟨nofun, fun _ => trivial⟩) fun _ => ih _

theorem offline_fill (url : String) (dest : Path) (mode : Option Nat) (temp : Path) (h : Handle) (body : Http.Body) :
    (fill url dest mode temp h body).plan.Uses (I := kernel) Kernel.Offline := by
  have hdress : (dress temp mode).plan.Uses (I := kernel) Kernel.Offline := by
    cases mode with
    | none => exact trivial
    | some mode => exact Attempt.uses_ofReply ⟨nofun, fun _ => trivial⟩
  rw [fill_eq]
  refine Attempt.uses_bind (offline_writeAll _ _ _) fun k => Attempt.uses_bind trivial fun _ => ?_
  refine Attempt.uses_bind (Attempt.uses_ofReply ⟨nofun, fun _ => trivial⟩) fun _ => ?_
  refine Attempt.uses_bind (Attempt.uses_ofReply ⟨nofun, fun _ => trivial⟩) fun _ => Attempt.uses_bind hdress fun _ => ?_
  exact Attempt.uses_bind (Attempt.uses_ofReply ⟨nofun, fun _ => trivial⟩) fun _ => trivial

theorem offline_keep (url : String) (dir dest : Path) (mode : Option Nat) (body : Http.Body) :
    (keep url dir dest mode body).plan.Uses (I := kernel) Kernel.Offline := by
  refine Attempt.uses_bind (Attempt.uses_ofReply ⟨nofun, fun _ => trivial⟩) fun r => ?_
  refine Plan.uses_bind (offline_fill url dest mode r.1 r.2 body) fun o => ?_
  cases o with
  | ok k => exact ⟨nofun, fun _ => trivial⟩
  | error e => exact ⟨nofun, fun _ => trivial⟩

theorem offline_makeDirs (dir : Path) : (Kernel.makeDirs dir).Uses (I := kernel) Kernel.Offline := by
  refine (Kernel.uses_makeChain fun a ha => ha).mono fun c hc => ?_
  obtain ⟨a, rfl, -⟩ | ⟨a, rfl⟩ := hc
  · exact nofun
  · exact nofun

theorem run_fill_alike {url : String} {dest temp : Path} {mode : Option Nat} {s : Nat} {b b' : Http.Body}
    (h : b.Alike b') (m : Machine) :
    m.run (fill url dest mode temp (.file s) b).plan = m.run (fill url dest mode temp (.file s) b').plan := by
  obtain rfl | ⟨hb, hb', hbytes⟩ := h
  · rfl
  · have hwrite : m.run (writeAll (.file s) b.pieces 0).plan = m.run (writeAll (.file s) b'.pieces 0).plan := by
      have hgathered : gathered ByteArray.empty b.pieces = gathered ByteArray.empty b'.pieces := hbytes
      rw [run_writeAll, run_writeAll, hgathered]
    simp only [Machine.run] at hwrite ⊢
    rw [fill_eq, fill_eq, hb, hb', Attempt.plan_bind, Attempt.plan_bind, Plan.run_bind, Plan.run_bind, hwrite]

theorem run_keep_alike {url : String} {mode : Option Nat} {b b' : Http.Body} (h : b.Alike b') (m : Machine) :
    m.run (keep url dir dest mode b).plan = m.run (keep url dir dest mode b').plan := by
  have hcreate : (Kernel.createTemp dir tempStem).run Machine.serve m =
      m.changeWith (m.disk.createTemp m.cwd dir tempStem) := rfl
  rw [keep, keep, Attempt.plan_bind, Attempt.plan_bind, Machine.run, Machine.run, Plan.run_bind, Plan.run_bind,
    Attempt.run_ofReply, hcreate]
  cases hmade : m.disk.createTemp m.cwd dir tempStem with
  | error e => rfl
  | ok r =>
    obtain ⟨⟨temp, hnd⟩, d⟩ := r
    obtain ⟨-, -, -, -, -, rfl, -⟩ := Disk.createTemp_inv hmade
    simp only [Machine.changeWith, Except.mapError]
    have hfill : (fill url dest mode temp (.file m.disk.next) b).plan.run Machine.serve { m with disk := d } =
        (fill url dest mode temp (.file m.disk.next) b').plan.run Machine.serve { m with disk := d } := run_fill_alike h _
    change Plan.run _ (Plan.bind (fill url dest mode temp _ b).plan _) _ =
      Plan.run _ (Plan.bind (fill url dest mode temp _ b').plan _) _
    rw [Plan.run_bind, Plan.run_bind, hfill]

theorem agree_file (agent : Option String) (url : String) (dest : Path) (mode : Option Nat) :
    Machine.Agree (Outcome Eq) (file agent url dest mode).plan (file agent url dest mode).plan := by
  cases hdir : dest.parent? with
  | none =>
    unfold file
    rw [hdir]
    exact Machine.agree_done rfl
  | some dir =>
    rw [file_eq hdir]
    refine ((Machine.agree_offline (offline_makeDirs dir) fun _ => rfl).ofReply _).attempt fun _ _ _ => ?_
    refine (Machine.Agree.ofReply (Http.steady_get false (headers agent) url) _).attempt fun r r' hr => ?_
    obtain ⟨hurl, hstatus, hbody⟩ := hr
    rw [← hurl, ← hstatus]
    split
    · exact Machine.agree_done rfl
    · exact Machine.agree_offline (offline_keep url dir dest mode r'.body) (run_keep_alike hbody)

/-- What a download comes to: directories on the way to the destination may be new, and on them either nothing is
changed, or the complete body of the last answer has been placed at the destination. -/
def Came (cwd : Place) (dir dest : Path) (mode : Option Nat) (answers : List Http.Answer) (d : Disk) (r : Except Error Unit)
    (d' : Disk) : Prop :=
  ∃ d₁, Grown cwd dir d d₁ ∧
    ((∃ e, r = .error e ∧ (∀ p, d'.get? p = d₁.get? p) ∧ ∀ q v, d.find cwd dest = .ok (q, v) → d'.find cwd dest = .ok (q, v)) ∨
      (r = .ok () ∧ ∃ status location body, answers.getLast? = some (.head status location body) ∧ isError status = false ∧
        body.ending = .complete ∧ Placed cwd dest mode body.bytes d₁ d'))

theorem Grown.came {d₁ : Disk} {mode : Option Nat} {answers : List Http.Answer} (h : Grown cwd dir d d₁)
    (hsame : ∀ p, d'.get? p = d₁.get? p) (e : Error) : Came cwd dir dest mode answers d (.error e) d' := by
  have hroads : Disk.Roads d d' := fun p v hv _ => (hsame p).trans (h.kept p v hv)
  refine ⟨d₁, h, .inl ⟨e, rfl, hsame, fun q v hf => ?_⟩⟩
  have hv := (Disk.find_iff.mp hf).2.2
  exact hroads.find hf (((hsame q).trans (h.kept q v hv)).trans hv.symm)

theorem course_file {agent : Option String} {url : String} {mode : Option Nat} (hdir : dest.parent? = some dir) (hd : d.Sound)
    {r : Except Error Unit} (hc : (file agent url dest mode).plan.Course (Kernel.strict cwd) d es (some r) d') :
    Came cwd dir dest mode (es.filterMap Http.answer?) d r d' := by
  -- until the body is kept nothing is changed but directories on the way
  rw [file_eq hdir] at hc
  obtain ⟨e, ho, hmade⟩ | ⟨u, d₁, es₁, es₂, rfl, hmade, hc₁⟩ := Attempt.of_bind_some hc
  · cases ho
    obtain ⟨o, hmade, -⟩ := Attempt.of_ofReply hmade
    exact (Grown.of_makeDirs hd hmade).came (fun _ => rfl) e
  obtain ⟨o, hmade, -⟩ := Attempt.of_ofReply hmade
  have hgrown := Grown.of_makeDirs hd hmade
  obtain ⟨e, ho, hget⟩ | ⟨a, d₂, es₃, es₄, rfl, hget, hc₂⟩ := Attempt.of_bind_some hc₁
  · cases ho
    obtain ⟨o, hget, -⟩ := Attempt.of_ofReply hget
    obtain ⟨rfl, -⟩ := Http.relays_get false (headers agent) url hget
    exact hgrown.came (fun _ => rfl) e
  obtain ⟨o, hget, ho⟩ := Attempt.of_ofReply hget
  obtain ⟨rfl, hlast⟩ := Http.relays_get false (headers agent) url hget
  have ha : o = some (.ok a) := by
    cases o with
    | none => cases ho
    | some x =>
      cases x with
      | error f => cases ho
      | ok b =>
        cases ho
        rfl
  obtain ⟨location, hlast⟩ := hlast a ha
  split at hc₂
  · obtain ⟨-, ho, rfl⟩ := Plan.Course.of_done hc₂
    cases ho
    exact hgrown.came (fun _ => rfl) _
  rename_i hstatus
  obtain ⟨e, rfl, hsame⟩ | ⟨rfl, hcomplete, hplaced⟩ := course_keep hgrown.sound hc₂
  · exact hgrown.came hsame e
  refine ⟨d₂, hgrown, .inr ⟨rfl, a.status, location, a.body, ?_, by simpa using hstatus, hcomplete, hplaced⟩⟩
  rw [List.filterMap_append, List.filterMap_append, Http.answers_of_uses hmade (offline_makeDirs dir),
    Http.answers_of_uses hc₂ (offline_keep url dir dest mode a.body), List.nil_append, List.append_nil, hlast]

/-- A download is all or nothing, whatever fails on the way; and what comes of it depends on the bytes of a complete
body only. -/
theorem file_whole_or_untouched (agent : Option String) (url : String) (dest dir : Path) (mode : Option Nat)
    (hdir : dest.parent? = some dir) :
    (∀ cwd d es r d', Disk.Sound d → (file agent url dest mode).plan.Course (Kernel.strict cwd) d es (some r) d' →
      Came cwd dir dest mode (es.filterMap Http.answer?) d r d') ∧
    ∀ (m : Machine) answers, List.Forall₂ Http.Answer.Alike m.answers answers →
      ∃ rest, Machine.run { m with answers := answers } (file agent url dest mode).plan =
        ((m.run (file agent url dest mode).plan).1, { (m.run (file agent url dest mode).plan).2 with answers := rest }) := by
  refine ⟨fun cwd d es r d' hd hc => course_file hdir hd hc, fun m answers halike => ?_⟩
  obtain ⟨rest, -, hstate, hout⟩ := agree_file agent url dest mode halike
  exact ⟨rest, Prod.ext (outcome_eq.mp hout).symm hstate⟩

/-- A machine with a link `l` to a directory `t`, and one answer to give. -/
def linked (pieces : List ByteArray) : Machine where
  disk := (Disk.empty.put [['t']] .dir).put [['l']] (.link "t")
  cwd := []
  env := []
  answers := [.head 200 none ⟨pieces, .complete⟩]
  requests := []
  journal := []

theorem sound_linked (pieces : List ByteArray) : (linked pieces).disk.Sound := by
  have hdir : (Disk.empty.put [['t']] .dir).Sound := Disk.sound_empty.put rfl nofun nofun
  exact hdir.put rfl (by decide) nofun

theorem eq_ok_of_isOk {r : Except Error Unit} (h : r.isOk = true) : r = .ok () := by
  cases r with
  | error e => cases h
  | ok u => rfl

/-- In two pieces or in one, the body takes the place of the link. -/
theorem file_whole_or_untouched_linked :
    let plan := (file none "http://assets.invalid/x" "l" (some 0o755)).plan
    let m := linked ["ne".toUTF8, "w".toUTF8]
    Came [] "" "l" (some 0o755) m.answers m.disk (.ok ()) (m.run plan).2.disk ∧
      ∃ rest, (linked ["new".toUTF8]).run plan = ((m.run plan).1, { (m.run plan).2 with answers := rest }) := by
  intro plan m
  obtain ⟨hall, hsplit⟩ := file_whole_or_untouched none "http://assets.invalid/x" "l" "" (some 0o755) (by decide)
  have hanswers : ((plan.events Machine.serve m).map (Event.seen Machine.disk)).filterMap Http.answer? = m.answers := by
    decide +kernel
  have hok : (m.run plan).1 = .ok () := eq_ok_of_isOk (by decide +kernel)
  have hcame := hall _ _ _ _ _ (sound_linked _) (m.course_strict plan)
  rw [hanswers, hok] at hcame
  exact ⟨hcame, hsplit m _ (.cons ⟨rfl, rfl, .inr ⟨rfl, rfl, by decide +kernel⟩⟩ .nil)⟩

/-- A way to the destination that goes by the very link that is replaced leads to nothing afterwards. -/
theorem file_not_found_again :
    ¬ ∀ (m : Machine) (agent : Option String) (url : String) (dest : Path) (mode : Option Nat), m.disk.Sound →
      dest.parent?.isSome → (m.run (file agent url dest mode).plan).1 = .ok () →
      ((m.run (file agent url dest mode).plan).2.disk.find m.cwd dest).isOk = true := by
  intro h
  have hfound := h (linked ["new".toUTF8]) none "http://assets.invalid/x" "l/../l" (some 0o755) (sound_linked _) (by decide)
    (eq_ok_of_isOk (by decide +kernel))
  have hlost : (((linked ["new".toUTF8]).run (file none "http://assets.invalid/x" "l/../l" (some 0o755)).plan).2.disk.find []
      "l/../l").isOk = false := by decide +kernel
  exact absurd (hlost.symm.trans hfound) (by decide)

end Provision.Download
