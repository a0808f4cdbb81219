import Provision.Proofs.Lodging.Linkless

set_option autoImplicit false

namespace Provision

/-- An entry without the serial number that tells files apart. -/
def Node.face : Node → Node
  | .file _ mode data => .file 0 mode data
  | v => v

namespace Lodging

variable (L : Lodging)

def spareNames : List Name := [recordName, draftName, packageName]

def OnWay (d : Disk) (x : Place) : Prop :=
  ∃ front rest, L.storage.steps = front ++ rest ∧
    Disk.walkFrom d (Disk.linkLimit + 1) (Disk.startOf L.cwd L.storage) front = .ok x

/-- The directories on the way may have been made, and what has one of the spare names may have changed. -/
structure Sprouts (d d' : Disk) : Prop where
  sound : d'.Sound
  roads : Disk.Roads d d'
  same : ∀ x, d'.get? x = d.get? x ∨ (d'.get? x = some .dir ∧ L.OnWay d' x) ∨
    ∃ home, L.berth.Open home d' ∧ ∃ n ∈ spareNames, x = n :: home

def seen (p : Path) (d : Disk) : Option Node := ((d.find L.cwd p).toOption.map fun r => r.2.face).filter (!·.isDir)

/-- The path leads to the same, whatever has the spare names, and however much of the way to the directory is made. -/
def Steady (p : Path) (d : Disk) : Prop := ∀ d', L.Sprouts d d' → L.seen p d' = L.seen p d

variable {L} {home : Place} {d d' d'' : Disk}

theorem OnWay.kept {x : Place} (h : L.OnWay d x) (hd : d.get? x = some .dir) (roads : Disk.Roads d d') : L.OnWay d' x := by
  obtain ⟨front, rest, hsteps, hwalk⟩ := h
  exact ⟨front, rest, hsteps, roads.walkFrom hwalk hd⟩

theorem open_kept (ho : L.berth.Open home d) (roads : Disk.Roads d d') : L.berth.Open home d' :=
  ⟨roads.walkFrom ho.1 ho.2, roads home .dir ho.2 (.inl rfl)⟩

namespace Sprouts

theorem refl (h : d.Sound) : L.Sprouts d d := ⟨h, fun _ _ hv _ => hv, fun _ => .inl rfl⟩

theorem trans (h : L.Sprouts d d') (h' : L.Sprouts d' d'') : L.Sprouts d d'' where
  sound := h'.sound
  roads := fun p v hv hroad => h'.roads p v (h.roads p v hv hroad) hroad
  same := by
    intro x
    obtain hsame | hnew := h'.same x
    · rw [hsame]
      obtain hsame | ⟨hdir, hway⟩ | ⟨home, ho, hn⟩ := h.same x
      · exact .inl hsame
      · exact .inr (.inl ⟨hdir, hway.kept hdir h'.roads⟩)
      · exact .inr (.inr ⟨home, open_kept ho h'.roads, hn⟩)
    · exact .inr hnew

theorem of_same (sound : d'.Sound) (roads : Disk.Roads d d') (ho : L.berth.Open home d')
    (same : ∀ p, (∀ n ∈ spareNames, p ≠ n :: home) → d'.get? p = d.get? p) : L.Sprouts d d' := by
  refine ⟨sound, roads, fun x => ?_⟩
  by_cases hx : ∃ n ∈ spareNames, x = n :: home
  · exact .inr (.inr ⟨home, ho, hx⟩)
  · exact .inl (same x fun n hn he => hx ⟨n, hn, he⟩)

end Sprouts

theorem Awaited.sprouts (h : L.Awaited d) {a : Path} (ha : a.Above L.storage) (hne : a.chars ≠ [])
    (hm : d.makeDir L.cwd a = .ok d') : L.Sprouts d d' := by
  obtain ⟨x, front, rest, hadded, hsteps, hwalk, -⟩ := h.made ha hne hm
  refine ⟨hadded.sound, hadded.roads, fun p => ?_⟩
  by_cases hp : p = x
  · subst hp
    exact .inr (.inl ⟨hadded.dir, front, rest, hsteps, hwalk⟩)
  · exact .inl (hadded.same p hp)

namespace Steady

variable {p : Path}

theorem sprouted (h : L.Steady p d) (hs : L.Sprouts d d') : L.Steady p d' ∧ L.seen p d' = L.seen p d := by
  have hseen := h d' hs
  exact ⟨fun t ht => (h t (hs.trans ht)).trans hseen.symm, hseen⟩

end Steady

end Lodging

end Provision
