import Provision.Proofs.Settings.Load
import Provision.Proofs.Berth
import Provision.Proofs.Disk.Footed
import Provision.Proofs.Path.Ancestors
import Provision.Proofs.Machine

/-!
Loading the settings at a path, or creating them there: what is at the path stays as it is, only nothing is written
over, and what was loaded or created is loaded again. Main statement: `loadOrCreate_stable`.
-/

set_option autoImplicit false

namespace Provision.Settings

/-- What is logged about settings that were read, and about settings that are created. -/
def usedFrom (path : Path) : Log.Entry := ⟨.info, .program, "Using config from: " ++ path.text⟩
def createdAt (path : Path) : Log.Entry :=
  ⟨.info, .program, "Config not found at " ++ path.text ++ ", creating default configuration"⟩

def follow (path : Path) : Except Error (Settings × Origin) → Plan kernel (Except Error Settings)
  | .error e => .done (.error e)
  | .ok (s, .file q) => .ask (.log (usedFrom q)) fun _ => .done (.ok s)
  | .ok (s, .defaults) => .ask (.log (createdAt path)) fun _ =>
    (writeDefault path).plan.bind fun r => .done (r.map fun _ => s)

theorem loadOrCreate_plan (path : Path) :
    (loadOrCreate path).plan = .ask (.read path) fun r => follow path (judge path r) := by
  unfold loadOrCreate
  rw [Attempt.plan_bind, load_plan]
  change Plan.ask _ _ = _
  congr 1
  funext r
  change Plan.bind (.done (judge path r)) _ = _
  rcases judge path r with e | ⟨s, origin⟩
  · rfl
  · cases origin with
    | file q => rfl
    | defaults =>
      change Plan.ask _ _ = _
      rw [follow]
      congr 1
      funext u
      refine (Attempt.plan_bind (writeDefault path) fun _ => pure s).trans ?_
      congr 1
      funext r
      cases r <;> rfl

variable {path : Path} {d d' : Disk} {cwd : Place} {outside : Disk → Disk → Prop} {es : List (Event kernel Disk)}

theorem judge_eq_ok {r : Except Fault ByteArray} {s : Settings} {origin : Origin} (h : judge path r = .ok (s, origin)) :
    (origin = .file path ∧ ∃ data, r = .ok data) ∨ (origin = .defaults ∧ s = .default ∧ r = .error (.os .missing)) := by
  cases r with
  | error e =>
    simp only [judge] at h
    split at h
    · rename_i he
      cases h
      exact .inr ⟨rfl, rfl, by simpa [Fault.isMissing] using he⟩
    · cases h
  | ok data =>
    refine .inl ⟨?_, data, rfl⟩
    simp only [judge] at h
    split at h
    · rename_i text _
      cases hread : read? text.toList <;> rw [hread] at h <;> cases h
      rfl
    · cases h

def defaultBytes : ByteArray := (String.ofList defaultText).toUTF8

theorem judge_generated : judge path (.ok defaultBytes) = .ok (.default, .file path) := by
  have hread : read? defaultText = some .default := by decide +kernel
  rw [defaultBytes, judge_text, String.toList_ofList, hread]
  rfl

theorem judge_empty : judge path (.ok ByteArray.empty) = .ok (.default, .file path) := by
  have htext : judge path (.ok "".toUTF8) = .ok (.default, .file path) := by
    have hread : read? "".toList = some .default := by decide +kernel
    rw [judge_text, hread]
    rfl
  exact htext

def looks : kernel.Call → Bool
  | .read _ | .log _ => true
  | _ => false

theorem writeDefault_ok (h : (writeDefault path).plan.Course (Kernel.law cwd outside) d es (some (.ok ())) d') :
    ∃ (t u : Disk) (hnd : Handle), t.create cwd path = .ok (hnd, u) ∧
      u.write hnd defaultBytes = .ok d' := by
  have hrest : ∃ t es', (Attempt.plan (Attempt.ofReply (Kernel.create path) (Error.unwritable path) >>= fun hnd =>
      Attempt.ofReply (Kernel.write hnd defaultBytes) (Error.unwritable path))).Course
        (Kernel.law cwd outside) t es' (some (.ok ())) d' := by
    unfold writeDefault at h
    split at h
    · obtain ⟨_, t, _, es', _, _, hrest⟩ := Attempt.of_bind_ok h
      exact ⟨t, es', hrest⟩
    · exact ⟨d, es, h⟩
  obtain ⟨t, es', hrest⟩ := hrest
  obtain ⟨hnd, u, _, _, _, hcreate, hwrite⟩ := Attempt.of_bind_ok hrest
  have hcreate := (Attempt.of_ofReply_ok hcreate).of_call_some
  have hwrite := (Attempt.of_ofReply_ok hwrite).of_call_some
  obtain ⟨e, he, -⟩ | ⟨hnd', hhnd, hcreate⟩ := hcreate
  · cases he
  cases hhnd
  obtain ⟨-, hwrite⟩ | ⟨e, he, -⟩ := hwrite
  · exact ⟨t, u, hnd, hcreate, hwrite⟩
  · cases he

/-- While directories are made above a path that leads to nothing: nothing is gone, and the path leads to nothing but
perhaps to a directory. -/
structure Awaits (cwd : Place) (path : Path) (d t : Disk) : Prop where
  sound : t.Sound
  footed : t.Footed cwd path
  vacant : ∀ q v, t.find cwd path = .ok (q, v) → v = .dir
  kept : ∀ p v, d.get? p = some v → t.get? p = some v

namespace Awaits

variable {t u : Disk} {hnd : Handle} {wrap : Fault → Error}

theorem makeDir (h : Awaits cwd path d t) {a : Path} (ha : a.Above path) (hne : a.chars ≠ [])
    (hm : t.makeDir cwd a = .ok u) : Awaits cwd path d u := by
  obtain ⟨x, hadded, -, hfind⟩ := h.footed.makeDir h.sound ha hne hm
  refine ⟨hadded.sound, h.footed.keep hadded.roads, fun q v hq => ?_, fun p v hv => hadded.kept (h.kept p v hv)⟩
  obtain rfl := hfind q v hq
  exact Option.some.inj ((Disk.find_iff.mp hq).2.2.symm.trans hadded.dir)

theorem makeDirs (h : Awaits cwd path d t) {dir : Path} (hdir : path.parent? = some dir) {o : Option (Except Fault Unit)}
    (hc : (Kernel.makeDirs dir).Course (Kernel.law cwd outside) t es o u) : Awaits cwd path d u := by
  refine Kernel.makeDirs_keeps (fun a ha => ?_) (fun ha hne ht hm => ht.makeDir ha hne hm) h hc
  refine Path.above_of_mem_ancestors ?_
  rw [Path.ancestors_eq, hdir]
  exact List.mem_cons_of_mem _ ha

theorem course_create (h : Awaits cwd path d t) {o : Option (Except Error Handle)}
    (hc : (Attempt.plan (Attempt.ofReply (Kernel.create path) wrap)).Course (Kernel.law cwd outside) t es o u) :
    (∀ p v, t.get? p = some v → u.get? p = some v) ∧ ∀ hnd, o = some (.ok hnd) → t.Filled cwd path hnd ByteArray.empty u := by
  refine Attempt.told hc fun hcall => hcall.told (fun hs => hs ▸ fun p v hv => hv) fun r hl => ?_
  obtain ⟨e, rfl, rfl⟩ | ⟨hnd, rfl, hcreate⟩ := hl
  · exact ⟨fun p v hv => hv, nofun⟩
  · have hfilled := Disk.Filled.create h.sound h.vacant hcreate
    refine ⟨fun p v hv => hfilled.kept hv, ?_⟩
    rintro _ ⟨⟩
    exact hfilled

theorem course_write {data part : ByteArray} (h : t.Filled cwd path hnd data u) {v : Disk} {o : Option (Except Error Unit)}
    (hc : (Attempt.plan (Attempt.ofReply (Kernel.write hnd part) wrap)).Course (Kernel.law cwd outside) u es o v) :
    (∀ p w, t.get? p = some w → v.get? p = some w) ∧ ∀ a, o = some (.ok a) → t.Filled cwd path hnd (data ++ part) v := by
  refine Attempt.told hc fun hcall => hcall.told (fun hs => hs ▸ fun p v hv => h.kept hv) fun r hl => ?_
  obtain ⟨rfl, hw⟩ | ⟨e, rfl, rfl | ⟨some, rest, -, hw⟩⟩ := hl
  · exact ⟨fun p w hv => (h.write hw).kept hv, fun _ _ => h.write hw⟩
  · exact ⟨fun p w hv => h.kept hv, nofun⟩
  · exact ⟨fun p w hv => (h.write hw).kept hv, nofun⟩

theorem course_fill (h : Awaits cwd path d t) {o : Option (Except Error Unit)}
    (hc : (Attempt.plan (Attempt.ofReply (Kernel.create path) (Error.unwritable path) >>= fun hnd =>
      Attempt.ofReply (Kernel.write hnd defaultBytes) (Error.unwritable path))).Course (Kernel.law cwd outside) t es o u) :
    (∀ p v, d.get? p = some v → u.get? p = some v) ∧
      (o = some (.ok ()) → ∃ x s m, u.find cwd path = .ok (x, .file s m defaultBytes)) := by
  obtain ⟨rfl, hcreate⟩ | ⟨e, rfl, hcreate⟩ | ⟨hnd, v, _, _, -, hcreate, hwrite⟩ := Attempt.of_bind hc
  · exact ⟨fun p v hv => (h.course_create hcreate).1 p v (h.kept p v hv), nofun⟩
  · exact ⟨fun p v hv => (h.course_create hcreate).1 p v (h.kept p v hv), nofun⟩
  · obtain ⟨hkept, hfilled⟩ := course_write ((h.course_create hcreate).2 hnd rfl) hwrite
    refine ⟨fun p v hv => hkept p v (h.kept p v hv), fun ho => ?_⟩
    have hfind := (hfilled () ho).find
    rwa [ByteArray.empty_append] at hfind

/-- Writing the defaults where nothing is makes a new file at most, whatever fails, and if nothing does, the path leads
to it. -/
theorem course_writeDefault (h : Awaits cwd path d t) {o : Option (Except Error Unit)}
    (hc : (writeDefault path).plan.Course (Kernel.law cwd outside) t es o u) :
    (∀ p v, d.get? p = some v → u.get? p = some v) ∧
      (o = some (.ok ()) → ∃ x s m, u.find cwd path = .ok (x, .file s m defaultBytes)) := by
  unfold writeDefault at hc
  split at hc
  · rename_i dir hdir
    obtain ⟨rfl, hdirs⟩ | ⟨e, rfl, hdirs⟩ | ⟨_, v, _, _, -, hdirs, hrest⟩ := Attempt.of_bind hc
    all_goals obtain ⟨_, hdirs, -⟩ := Attempt.of_ofReply hdirs
    · exact ⟨(h.makeDirs hdir hdirs).kept, nofun⟩
    · exact ⟨(h.makeDirs hdir hdirs).kept, nofun⟩
    · exact (h.makeDirs hdir hdirs).course_fill hrest
  · exact h.course_fill hc

end Awaits

theorem course_log {α : Type} {entry : Log.Entry} {next : Unit → Plan kernel α} {o : Option α}
    (h : (Plan.ask (I := kernel) (.log entry) next).Course (Kernel.law cwd outside) d es o d') :
    (d' = d ∧ o = none ∧ ∀ e ∈ es, looks e.call = true) ∨
      ∃ es', es = ⟨.log entry, (), d⟩ :: es' ∧ (next ()).Course (Kernel.law cwd outside) d es' o d' := by
  obtain ⟨rfl, rfl, rfl | ⟨-, rfl⟩⟩ | ⟨_, u, es', rfl, rfl, hnext⟩ := h.of_ask
  · exact .inl ⟨rfl, rfl, by simp [looks]⟩
  · exact .inl ⟨rfl, rfl, by simp [looks]⟩
  · exact .inr ⟨es', rfl, hnext⟩

theorem course_loadOrCreate {o : Option (Except Error Settings)}
    (h : (loadOrCreate path).plan.Course (Kernel.law cwd outside) d es o d') :
    (d' = d ∧ (∀ e ∈ es, looks e.call = true) ∧
        ∀ s, o = some (.ok s) → judge path (d.read cwd path) = .ok (s, .file path)) ∨
      (d.read cwd path = .error (.os .missing) ∧ (∃ rest, es = ⟨.read path, .error (.os .missing), d⟩ :: rest) ∧
        ∃ o' es', (writeDefault path).plan.Course (Kernel.law cwd outside) d es' o' d' ∧
          ∀ s, o = some (.ok s) → s = .default ∧ o' = some (.ok ())) := by
  rw [loadOrCreate_plan] at h
  obtain ⟨rfl, rfl, rfl | ⟨r, rfl, -⟩⟩ | ⟨r, t, es', rfl, ⟨rfl, hread⟩, hrest⟩ := h.of_ask
  · exact .inl ⟨rfl, by simp, nofun⟩
  · exact .inl ⟨rfl, by simp, nofun⟩
  cases hj : judge path r with
  | error e =>
    rw [hj] at hrest
    obtain ⟨rfl, rfl, rfl⟩ := hrest.of_done
    exact .inl ⟨rfl, by simp [looks], nofun⟩
  | ok found =>
    obtain ⟨s, origin⟩ := found
    rw [hj] at hrest
    obtain ⟨rfl, data, rfl⟩ | ⟨rfl, rfl, rfl⟩ := judge_eq_ok hj
    -- a file was read, which is logged and no more
    · have htruth : t.read cwd path = .ok data := by
        obtain hread | ⟨e, he, -⟩ := hread
        · exact hread.symm
        · cases he
      obtain ⟨rfl, rfl, hlooks⟩ | ⟨es'', rfl, hlast⟩ := course_log hrest
      · exact .inl ⟨rfl, by simpa [looks] using hlooks, nofun⟩
      · obtain ⟨rfl, rfl, rfl⟩ := hlast.of_done
        refine .inl ⟨rfl, by simp [looks], ?_⟩
        rintro _ ⟨⟩
        rw [htruth, hj]
    -- only a file that is missing is answered for as missing
    · have htruth : t.read cwd path = .error (.os .missing) := by
        obtain hread | ⟨e, he, hmissing⟩ := hread
        · exact hread.symm
        · cases he
          cases hmissing
      obtain ⟨rfl, rfl, hlooks⟩ | ⟨es'', rfl, hlast⟩ := course_log hrest
      · exact .inl ⟨rfl, by simpa [looks] using hlooks, nofun⟩
      refine .inr ⟨htruth, ⟨_, rfl⟩, ?_⟩
      obtain ⟨rfl, hwrite⟩ | ⟨r, v, es₁, es₂, rfl, hwrite, hdone⟩ := hlast.of_bind
      · exact ⟨none, es'', hwrite, nofun⟩
      · obtain ⟨rfl, ho, rfl⟩ := hdone.of_done
        refine ⟨some r, es₁, hwrite, fun s hs => ?_⟩
        cases r with
        | error e => simp [ho, Except.map] at hs
        | ok u =>
          rw [ho] at hs
          cases hs
          exact ⟨rfl, rfl⟩

theorem judge_written {t u : Disk} {hnd : Handle} (hc : t.create cwd path = .ok (hnd, u))
    (hw : u.write hnd defaultBytes = .ok d) :
    (∃ x, d.find cwd path = .ok (x, .device .zero)) ∨ judge path (d.read cwd path) = .ok (.default, .file path) := by
  rw [Disk.read_eq]
  obtain ⟨x, s, m, hf⟩ | ⟨x, dev, hf, hroom⟩ := Disk.find_written hc hw
  · rw [hf]
    exact .inr judge_generated
  · cases dev with
    | zero => exact .inl ⟨x, hf⟩
    | null =>
      rw [hf]
      exact .inr judge_empty
    | full =>
      have hfilled : defaultBytes.isEmpty = false := by decide +kernel
      cases hfilled.symm.trans (hroom rfl)

theorem run_load_machine (m : Machine) : m.run (load path).plan = (judge path (m.disk.read m.cwd path), m) :=
  run_load

theorem run_loadOrCreate (m : Machine) {s : Settings} (h : judge path (m.disk.read m.cwd path) = .ok (s, .file path)) :
    m.run (loadOrCreate path).plan = (.ok s, { m with journal := m.journal ++ [usedFrom path] }) := by
  rw [loadOrCreate_plan]
  change Plan.run Machine.serve (follow path (judge path (m.disk.read m.cwd path))) m = _
  rw [h]
  rfl

theorem run_loadOrCreate_error (m : Machine) {e : Error} (h : judge path (m.disk.read m.cwd path) = .error e) :
    m.run (loadOrCreate path).plan = (.error e, m) := by
  rw [loadOrCreate_plan]
  change Plan.run Machine.serve (follow path (judge path (m.disk.read m.cwd path))) m = _
  rw [h]
  rfl

theorem read_found {found : Place × Node} (h : d.find cwd path = .ok found) :
    d.read cwd path ≠ .error (.os .missing) := by
  rw [Disk.read_eq, h]
  obtain ⟨x, v⟩ := found
  cases v with
  | device dev => cases dev <;> nofun
  | _ => nofun

theorem Awaits.start (hd : d.Sound) (hfooted : d.Footed cwd path) (hmissing : d.read cwd path = .error (.os .missing)) :
    Awaits cwd path d d :=
  ⟨hd, hfooted, fun _ _ hfound => absurd hmissing (read_found hfound), fun _ _ hv => hv⟩

/-- Whatever calls fail and wherever it is killed, loading the settings leaves the disk as it is if the path leads to
anything. Where it leads to nothing, and no `..` of it stands behind a directory that is missing, there are new
directories and a new file at most, and all that was there is as it was. The disk is changed only behind a read that
said, and said truly, that nothing is there, and settings that come of it are the defaults. Whoever loads the settings
next loads the same from the file and changes nothing; only by a `..` that makes no sense before directories are made
can the path lead to a device that gives zeros without end. -/
theorem loadOrCreate_stable (hd : d.Sound) {o : Option (Except Error Settings)}
    (h : (loadOrCreate path).plan.Course (Kernel.law cwd outside) d es o d') :
    (∀ found, d.find cwd path = .ok found → d' = d) ∧
    (d.Footed cwd path → ∀ p v, d.get? p = some v → d'.get? p = some v) ∧
    (d' ≠ d ∨ (∃ e ∈ es, looks e.call = false) →
      d.read cwd path = .error (.os .missing) ∧ ∃ rest, es = ⟨.read path, .error (.os .missing), d⟩ :: rest) ∧
    ∀ s, o = some (.ok s) →
      (d.read cwd path = .error (.os .missing) → s = .default) ∧
      (d.Footed cwd path ∨ (∀ x, d'.find cwd path ≠ .ok (x, .device .zero)) →
        ∀ m : Machine, m.disk = d' → m.cwd = cwd →
          m.run (load path).plan = (.ok (s, .file path), m) ∧
            m.run (loadOrCreate path).plan = (.ok s, { m with journal := m.journal ++ [usedFrom path] })) := by
  -- a further load depends on the bytes at the path alone
  have hagain {s : Settings} (hj : judge path (d'.read cwd path) = .ok (s, .file path)) :
      ∀ m : Machine, m.disk = d' → m.cwd = cwd →
        m.run (load path).plan = (.ok (s, .file path), m) ∧
          m.run (loadOrCreate path).plan = (.ok s, { m with journal := m.journal ++ [usedFrom path] }) := by
    rintro m rfl rfl
    exact ⟨(run_load_machine m).trans (by rw [hj]), run_loadOrCreate m hj⟩
  obtain ⟨rfl, hlooks, hs⟩ | ⟨hmissing, hes, o', es', hwrite, hs⟩ := course_loadOrCreate h
  · refine ⟨fun _ _ => rfl, fun _ _ _ hv => hv, ?_, fun s ho => ⟨fun hmissing => ?_, fun _ => hagain (hs s ho)⟩⟩
    · rintro (hd | ⟨e, he, hlook⟩)
      · exact absurd rfl hd
      · cases (hlooks e he).symm.trans hlook
    · have hj := hs s ho
      rw [hmissing] at hj
      cases hj
  · refine ⟨fun found hfound => absurd hmissing (read_found hfound), fun hfooted => ?_, fun _ => ⟨hmissing, hes⟩,
      fun s ho => ?_⟩
    · exact ((Awaits.start hd hfooted hmissing).course_writeDefault hwrite).1
    obtain ⟨rfl, rfl⟩ := hs s ho
    refine ⟨fun _ => rfl, fun hway => hagain ?_⟩
    obtain hfooted | hzero := hway
    · obtain ⟨x, s, m, hf⟩ := ((Awaits.start hd hfooted hmissing).course_writeDefault hwrite).2 rfl
      rw [Disk.read_eq, hf]
      exact judge_generated
    · obtain ⟨t, u, hnd, hc, hw⟩ := writeDefault_ok hwrite
      obtain ⟨x, hx⟩ | hj := judge_written hc hw
      · exact absurd hx (hzero x)
      · exact hj

section Concrete

def beside₀ : Machine := ⟨(Disk.empty.put [['d']] .dir).addFile [['k']] 0o644 "kept".toUTF8, [], [], [], [], []⟩

theorem sound_beside : beside₀.disk.Sound := by
  have hdir : (Disk.empty.put [['d']] .dir).Sound := Disk.sound_empty.put rfl nofun nofun
  exact hdir.addFile rfl (by decide) _ _

/-- The directory is there, so a `..` may stand behind it. -/
theorem loadOrCreate_stable_beside :
    beside₀.disk.Sound ∧ beside₀.disk.Footed [] "d/../c/f" ∧ (beside₀.run (loadOrCreate "d/../c/f").plan).1 = .ok .default ∧
      (beside₀.run (loadOrCreate "d/../c/f").plan).2.disk.get? [['k']] = beside₀.disk.get? [['k']] ∧
      (beside₀.run (loadOrCreate "d/../c/f").plan).2.run (load "d/../c/f").plan =
        (.ok (.default, .file "d/../c/f"), (beside₀.run (loadOrCreate "d/../c/f").plan).2) := by
  have hfooted : beside₀.disk.Footed [] "d/../c/f" :=
    ⟨[['d'], ['.', '.']], [['c'], ['f']], by decide, by decide, .inr ⟨[], by decide, by decide⟩⟩
  have hrun : (beside₀.run (loadOrCreate "d/../c/f").plan).1 = .ok .default := rfl
  obtain ⟨-, hkept, -, hs⟩ := loadOrCreate_stable sound_beside (beside₀.course (loadOrCreate "d/../c/f").plan)
  obtain ⟨-, hagain⟩ := hs .default (congrArg some hrun)
  exact ⟨sound_beside, hfooted, hrun, hkept hfooted _ _ rfl, (hagain (.inl hfooted) _ rfl rfl).1⟩

def zero₀ : Machine := ⟨Disk.empty.put [['z']] (.device .zero), [], [], [], [], []⟩

theorem zeros_text (n : Nat) : (⟨Array.replicate n 0⟩ : ByteArray) = (String.ofList (List.replicate n (Char.ofNat 0))).toUTF8 := by
  have hbytes : (List.replicate n (Char.ofNat 0)).flatMap String.utf8EncodeChar = List.replicate n 0 := by
    have hchar : String.utf8EncodeChar (Char.ofNat 0) = [0] := by decide
    simp [List.flatMap_replicate, hchar]
  rw [String.toUTF8_eq_toByteArray, String.toByteArray_ofList, List.utf8Encode, hbytes]
  apply ByteArray.ext
  simp

theorem read?_zero (cs : List Char) : Toml.read? (Char.ofNat 0 :: cs) = none := by
  have hkey : Toml.key (Char.ofNat 0 :: cs) = none := by
    rw [Toml.key, List.length_cons, Toml.keyFrom]
    rfl
  have hhead : (Char.ofNat 0 :: cs).head? ≠ some Toml.byteOrderMark := by simp [Toml.byteOrderMark]
  have hgaps : Toml.skipGaps (Char.ofNat 0 :: cs) = Char.ofNat 0 :: cs := rfl
  rw [Toml.read?, if_neg hhead, List.length_cons, Toml.linesInto, hgaps]
  simp [hkey]

theorem judge_zeros : judge path (.ok Disk.zeros) = .error (.invalid path) := by
  have hread : read? (List.replicate (65535 + 1) (Char.ofNat 0)) = none := by
    rw [List.replicate_succ, read?, read?_zero]
    rfl
  rw [Disk.zeros, zeros_text, judge_text, String.toList_ofList, hread]
  rfl

/-- Behind a missing directory a `..` lets what is made there bring a file to light, which is written over, or the
device, from which nothing is loaded. -/
theorem loadOrCreate_unfooted :
    (¬ ∀ (m : Machine) (path : Path), m.disk.Sound → ∀ p s mode data v, m.disk.get? p = some (.file s mode data) →
      (m.run (loadOrCreate path).plan).2.disk.find m.cwd path = .ok (p, v) → v = .file s mode data) ∧
    ¬ ∀ (m : Machine) (path : Path) (s : Settings), m.disk.Sound → (m.run (loadOrCreate path).plan).1 = .ok s →
      ((m.run (loadOrCreate path).plan).2.run (loadOrCreate path).plan).1 = .ok s := by
  constructor
  · intro h
    have hbefore : beside₀.disk.get? [['k']] = some (.file 0 0o644 "kept".toUTF8) := rfl
    have hafter : (beside₀.run (loadOrCreate "x/../k").plan).2.disk.find [] "x/../k" = .ok ([['k']], .file 0 0o644 defaultBytes) :=
      rfl
    have hsame := (Node.file.inj (h beside₀ "x/../k" sound_beside _ _ _ _ _ hbefore hafter)).2.2
    exact absurd (congrArg ByteArray.size hsame) (by decide +kernel)
  · intro h
    have hsound : zero₀.disk.Sound := Disk.sound_empty.put rfl (by decide) nofun
    have hagain := h zero₀ "x/../z" .default hsound rfl
    generalize hm : (zero₀.run (loadOrCreate "x/../z").plan).2 = m at hagain
    have hread : m.disk.read m.cwd "x/../z" = .ok Disk.zeros := hm ▸ rfl
    rw [run_loadOrCreate_error m (hread ▸ judge_zeros)] at hagain
    cases hagain

end Concrete

end Provision.Settings
