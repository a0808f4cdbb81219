import Provision.Disk.Step
import Mathlib.Data.List.Infix

/-!
What is where on a disk after each kind of change, what every change keeps (a file is the same under all its names,
new serial numbers are fresh, and entries stand in directories), and which places are names of one file.
-/

set_option autoImplicit false

namespace Provision

/-- A node after the contents of the file with a serial number were replaced. -/
def Node.revised (serial : Nat) (f : ByteArray → ByteArray) : Node → Node
  | .file s m data => if s = serial then .file s m (f data) else .file s m data
  | n => n

namespace Disk

theorem bind_eq_ok {ε α β : Type} {x : Except ε α} {f : α → Except ε β} {b : β} :
    (x >>= f) = .ok b ↔ ∃ a, x = .ok a ∧ f a = .ok b := by
  cases x <;> simp [bind, Except.bind]

theorem mapError_eq_ok {ε φ α : Type} {x : Except ε α} {f : ε → φ} {a : α} : x.mapError f = .ok a ↔ x = .ok a := by
  cases x <;> simp [Except.mapError]

theorem lookup_other {p q : Place} (h : p ≠ q) (n : Node) (l : List (Place × Node)) :
    ((q, n) :: l).lookup p = l.lookup p := by
  have hb : (p == q) = false := by simpa using h
  simp [List.lookup_cons, hb]

theorem lookup_filter (l : List (Place × Node)) (f : Place → Bool) (p : Place) :
    (l.filter fun e => f e.1).lookup p = if f p then l.lookup p else none := by
  induction l with
  | nil => simp
  | cons e l ih =>
    obtain ⟨q, n⟩ := e
    by_cases hp : p = q
    · subst hp
      by_cases hf : f p
      · simp [hf]
      · simpa [hf] using ih
    · by_cases hf : f q
      · simp [hf, lookup_other hp, ih]
      · simp [hf, lookup_other hp, ih]

theorem get?_of_ne {p : Place} (d : Disk) (hp : p ≠ []) : d.get? p = d.entries.lookup p := by
  cases p with
  | nil => exact absurd rfl hp
  | cons n p => rfl

@[simp] theorem get?_root (d : Disk) : d.get? [] = some .dir := rfl

theorem get?_erase (d : Disk) {p : Place} (hp : p ≠ []) (q : Place) :
    (d.erase p).get? q = if q = p then none else d.get? q := by
  by_cases hq : q = []
  · subst hq
    simp [Ne.symm hp]
  · rw [get?_of_ne _ hq, get?_of_ne _ hq, erase]
    have h := lookup_filter d.entries (fun r => decide (r ≠ p)) q
    by_cases hqp : q = p <;> simpa [hqp] using h

theorem get?_put (d : Disk) {p : Place} (hp : p ≠ []) (n : Node) (q : Place) :
    (d.put p n).get? q = if q = p then some n else d.get? q := by
  by_cases hq : q = []
  · subst hq
    simp [Ne.symm hp]
  · rw [get?_of_ne _ hq, get?_of_ne _ hq, put]
    have h := lookup_filter d.entries (fun r => decide (r ≠ p)) q
    by_cases hqp : q = p
    · simp [hqp]
    · simpa [lookup_other hqp, hqp] using h

theorem get?_addFile (d : Disk) {p : Place} (hp : p ≠ []) (mode : Nat) (data : ByteArray) (q : Place) :
    (d.addFile p mode data).get? q = if q = p then some (.file d.next mode data) else d.get? q := by
  rw [← get?_put d hp]
  cases q <;> rfl

theorem lookup_map (l : List (Place × Node)) (f : Node → Node) (p : Place) :
    (l.map fun e => (e.1, f e.2)).lookup p = (l.lookup p).map f := by
  induction l with
  | nil => rfl
  | cons e l ih =>
    obtain ⟨q, n⟩ := e
    by_cases hp : p = q
    · subst hp
      simp
    · simp [lookup_other hp, ih]

theorem revise_eq (d : Disk) (serial : Nat) (f : ByteArray → ByteArray) :
    d.revise serial f = { d with entries := d.entries.map fun e => (e.1, Node.revised serial f e.2) } := by
  unfold revise
  congr 2
  funext ⟨p, v⟩
  cases v with
  | file s m data => by_cases hs : s = serial <;> simp [Node.revised, hs]
  | _ => rfl

theorem get?_revise (d : Disk) (serial : Nat) (f : ByteArray → ByteArray) (q : Place) :
    (d.revise serial f).get? q = (d.get? q).map (Node.revised serial f) := by
  by_cases hq : q = []
  · subst hq
    rfl
  · rw [get?_of_ne _ hq, get?_of_ne _ hq, revise_eq]
    exact lookup_map _ _ _

theorem revise_id (d : Disk) (serial : Nat) : d.revise serial id = d := by
  have hnode : ∀ v, Node.revised serial id v = v := by
    intro v
    cases v with
    | file s m data => simp [Node.revised]
    | _ => rfl
  simp [revise_eq, hnode]

theorem revise_revise (d : Disk) (serial : Nat) (f g : ByteArray → ByteArray) :
    (d.revise serial f).revise serial g = d.revise serial (g ∘ f) := by
  have hnode : ∀ v, Node.revised serial g (Node.revised serial f v) = Node.revised serial (g ∘ f) v := by
    intro v
    cases v with
    | file s m data => by_cases hs : s = serial <;> simp [Node.revised, hs]
    | _ => rfl
  simp [revise_eq, hnode]

def HasFile (d : Disk) (x : Place) : Prop := ∃ s m data, d.get? x = some (.file s m data)

theorem isUnder_iff {p q : Place} : isUnder p q = true ↔ p <:+ q := List.isSuffixOf_iff_suffix

theorem lookup_moved (l : List (Place × Node)) (p q x : Place) :
    ((l.filter fun e => isUnder p e.1).map fun e => (e.1.take (e.1.length - p.length) ++ q, e.2)).lookup (x ++ q) =
      l.lookup (x ++ p) := by
  induction l with
  | nil => rfl
  | cons e l ih =>
    obtain ⟨r, n⟩ := e
    by_cases hr : p <:+ r
    · obtain ⟨y, rfl⟩ := hr
      have hu : isUnder p (y ++ p) = true := isUnder_iff.mpr (List.suffix_append y p)
      by_cases hx : x = y
      · subst hx
        simp [hu]
      · have hq : x ++ q ≠ y ++ q := by simpa using hx
        have hp : x ++ p ≠ y ++ p := by simpa using hx
        simp [hu, lookup_other hq, lookup_other hp, ih]
    · have hu : isUnder p r = false := by
        rw [← Bool.not_eq_true, isUnder_iff]
        exact hr
      have hx : x ++ p ≠ r := fun h => hr ⟨x, h⟩
      simp [hu, lookup_other hx, ih]

theorem lookup_moved_other (l : List (Place × Node)) (p q r : Place) (hr : ¬ q <:+ r) :
    ((l.filter fun e => isUnder p e.1).map fun e => (e.1.take (e.1.length - p.length) ++ q, e.2)).lookup r = none := by
  rw [List.lookup_eq_none_iff]
  intro e he
  obtain ⟨e', -, rfl⟩ := List.mem_map.mp he
  have hne : r ≠ e'.1.take (e'.1.length - p.length) ++ q := fun h => hr ⟨_, h.symm⟩
  simpa using hne

theorem get?_move (d : Disk) {p q : Place} (hp : p ≠ []) (hq : q ≠ []) (r : Place) :
    (d.move p q).get? r =
      if q <:+ r then d.get? (r.take (r.length - q.length) ++ p)
      else if p <:+ r then none else d.get? r := by
  by_cases hr : r = []
  · subst hr
    simp [hp, hq]
  rw [get?_of_ne _ hr, get?_of_ne _ hr, move, List.lookup_append,
    lookup_filter d.entries (fun r => !isUnder p r && !isUnder q r)]
  by_cases hqr : q <:+ r
  · obtain ⟨x, rfl⟩ := hqr
    have hx : x ++ p ≠ [] := by simp [hp]
    have hu : isUnder q (x ++ q) = true := isUnder_iff.mpr (List.suffix_append x q)
    simp [lookup_moved, get?_of_ne _ hx, hu]
  · have hu : isUnder q r = false := by simpa [← isUnder_iff] using hqr
    rw [lookup_moved_other _ _ _ _ hqr]
    by_cases hpr : p <:+ r
    · simp [hqr, hpr, isUnder_iff.mpr hpr]
    · have hv : isUnder p r = false := by simpa [← isUnder_iff] using hpr
      simp [hqr, hpr, hu, hv]

/-- A node after the file with a serial number was given other mode bits. -/
def chmodded (serial mode : Nat) : Node → Node
  | .file s m data => .file s (if s = serial then mode else m) data
  | n => n

theorem chmod_eq (d : Disk) (serial mode : Nat) :
    d.chmod serial mode = { d with entries := d.entries.map fun e => (e.1, chmodded serial mode e.2) } := by
  unfold chmod
  congr 2
  funext ⟨p, v⟩
  cases v <;> rfl

theorem get?_chmod (d : Disk) (serial mode : Nat) (q : Place) :
    (d.chmod serial mode).get? q = (d.get? q).map (chmodded serial mode) := by
  by_cases hq : q = []
  · subst hq
    rfl
  · rw [get?_of_ne _ hq, get?_of_ne _ hq, chmod_eq]
    exact lookup_map _ _ _

/-- What every disk is: a file is the same under all its names, the numbers of new files are not in use yet, and what has a
place stands in a directory. -/
structure Sound (d : Disk) : Prop where
  alike : ∀ {p q s m m' x x'}, d.get? p = some (.file s m x) → d.get? q = some (.file s m' x') → m = m' ∧ x = x'
  fresh : ∀ {p s m x}, d.get? p = some (.file s m x) → s < d.next
  inside : ∀ {n p v}, d.get? (n :: p) = some v → d.get? p = some .dir

theorem sound_empty : empty.Sound where
  alike := by
    intro p q s m m' x x' h
    cases p <;> cases h
  fresh := by
    intro p s m x h
    cases p <;> cases h
  inside := by
    intro n p v h
    cases h

namespace Sound

variable {d : Disk}

theorem below (h : d.Sound) {p : Place} (hp : d.get? p ≠ some .dir) (x : Place) (hx : x ≠ []) :
    d.get? (x ++ p) = none := by
  induction x with
  | nil => exact absurd rfl hx
  | cons n x ih =>
    cases hv : d.get? (n :: x ++ p) with
    | none => rfl
    | some v =>
      have hd : d.get? (x ++ p) = some .dir := h.inside hv
      by_cases he : x = []
      · subst he
        exact absurd hd hp
      · rw [ih he] at hd
        cases hd

theorem erase (h : d.Sound) {p : Place} (hne : p ≠ []) (hp : d.get? p ≠ some .dir) : (d.erase p).Sound where
  alike := by
    intro p' q s m m' x x' h₁ h₂
    rw [get?_erase d hne] at h₁ h₂
    split at h₁ <;> split at h₂ <;> first | contradiction | exact h.alike h₁ h₂
  fresh := by
    intro q s m x hq
    rw [get?_erase d hne] at hq
    split at hq
    · cases hq
    · exact h.fresh hq
  inside := by
    intro n q v hq
    rw [get?_erase d hne] at hq ⊢
    split at hq
    · cases hq
    · have hd := h.inside hq
      have hqp : q ≠ p := fun e => hp (e ▸ hd)
      simpa [hqp] using hd

theorem addFile (h : d.Sound) {n : Name} {dir : Place} (hdir : d.get? dir = some .dir)
    (hp : d.get? (n :: dir) = none) (mode : Nat) (data : ByteArray) : (d.addFile (n :: dir) mode data).Sound where
  alike := by
    intro p' q s m m' x x' h₁ h₂
    rw [get?_addFile d (by simp)] at h₁ h₂
    split at h₁ <;> split at h₂
    · cases h₁
      cases h₂
      exact ⟨rfl, rfl⟩
    · cases h₁
      exact absurd (h.fresh h₂) (Nat.lt_irrefl _)
    · cases h₂
      exact absurd (h.fresh h₁) (Nat.lt_irrefl _)
    · exact h.alike h₁ h₂
  fresh := by
    intro q s m x hq
    rw [get?_addFile d (by simp)] at hq
    split at hq
    · cases hq
      exact Nat.lt_succ_self _
    · exact Nat.lt_succ_of_lt (h.fresh hq)
  inside := by
    intro m q v hq
    rw [get?_addFile d (by simp)] at hq ⊢
    split at hq
    · rename_i e
      obtain ⟨rfl, rfl⟩ := List.cons.inj e
      simpa using hdir
    · have hd := h.inside hq
      have hqp : q ≠ n :: dir := by
        intro e
        rw [e, hp] at hd
        cases hd
      simpa [hqp] using hd

theorem put (h : d.Sound) {n : Name} {dir : Place} {v : Node} (hdir : d.get? dir = some .dir)
    (hp : d.get? (n :: dir) ≠ some .dir) (hv : ∀ s m x, v ≠ .file s m x) : (d.put (n :: dir) v).Sound where
  alike := by
    intro p q s m m' x x' h₁ h₂
    rw [get?_put d (by simp)] at h₁ h₂
    split at h₁
    · exact absurd (Option.some.inj h₁) (hv s m x)
    · split at h₂
      · exact absurd (Option.some.inj h₂) (hv s m' x')
      · exact h.alike h₁ h₂
  fresh := by
    intro q s m x hq
    rw [get?_put d (by simp)] at hq
    split at hq
    · exact absurd (Option.some.inj hq) (hv s m x)
    · exact h.fresh hq
  inside := by
    intro m q w hq
    rw [get?_put d (by simp)] at hq ⊢
    split at hq
    · rename_i e
      obtain ⟨rfl, rfl⟩ := List.cons.inj e
      simpa using hdir
    · have hd := h.inside hq
      have hqp : q ≠ n :: dir := fun e => hp (e ▸ hd)
      simpa [hqp] using hd

theorem of_map (h : d.Sound) {d' : Disk} (hnext : d'.next = d.next) {f : Node → Node}
    (hf : ∀ v s m x, f v = .file s m x → ∃ m' x', v = .file s m' x') (hdir : f .dir = .dir)
    (hget : ∀ p, d'.get? p = (d.get? p).map f) : d'.Sound := by
  have hfile : ∀ {p s m x}, d'.get? p = some (.file s m x) → ∃ m' x', d.get? p = some (.file s m' x') ∧
      f (.file s m' x') = .file s m x := by
    intro p s m x hp
    rw [hget] at hp
    obtain ⟨v, hv, he⟩ := Option.map_eq_some_iff.mp hp
    obtain ⟨m', x', rfl⟩ := hf v s m x he
    exact ⟨m', x', hv, he⟩
  refine ⟨fun hp hq => ?_, fun hp => ?_, fun {n p v} hv => ?_⟩
  · obtain ⟨m₁, x₁, h₁, e₁⟩ := hfile hp
    obtain ⟨m₂, x₂, h₂, e₂⟩ := hfile hq
    obtain ⟨rfl, rfl⟩ := h.alike h₁ h₂
    obtain ⟨-, hm, hx⟩ := Node.file.inj (e₁.symm.trans e₂)
    exact ⟨hm, hx⟩
  · obtain ⟨m', x', hv, -⟩ := hfile hp
    exact hnext ▸ h.fresh hv
  · rw [hget] at hv ⊢
    obtain ⟨w, hw, -⟩ := Option.map_eq_some_iff.mp hv
    rw [h.inside hw, Option.map_some, hdir]

theorem revise (h : d.Sound) (serial : Nat) (f : ByteArray → ByteArray) : (d.revise serial f).Sound := by
  refine h.of_map (f := Node.revised serial f) rfl (fun v s m x he => ?_) rfl (get?_revise d serial f)
  cases v with
  | file s' m' x' =>
    simp only [Node.revised] at he
    split at he <;> cases he <;> exact ⟨_, _, rfl⟩
  | _ => cases he

theorem chmod (h : d.Sound) (serial mode : Nat) : (d.chmod serial mode).Sound := by
  refine h.of_map (f := chmodded serial mode) rfl (fun v s m x he => ?_) rfl (get?_chmod d serial mode)
  cases v with
  | file s' m' x' =>
    obtain ⟨rfl, -⟩ := Node.file.inj he
    exact ⟨_, _, rfl⟩
  | _ => cases he

theorem move (h : d.Sound) {p : Place} {n : Name} {dir : Place} (hp : p ≠ [])
    (hdir : d.get? dir = some .dir) (hpq : ¬ p <:+ n :: dir) (hqp : ¬ n :: dir <:+ p) :
    (d.move p (n :: dir)).Sound := by
  have hq : n :: dir ≠ [] := by simp
  have source : ∀ {r v}, (d.move p (n :: dir)).get? r = some v →
      (∃ x, r = x ++ n :: dir ∧ d.get? (x ++ p) = some v) ∨ (¬ n :: dir <:+ r ∧ ¬ p <:+ r ∧ d.get? r = some v) := by
    intro r v hr
    rw [get?_move d hp hq] at hr
    split at hr
    · rename_i hu
      obtain ⟨x, rfl⟩ := hu
      exact .inl ⟨x, rfl, by simpa using hr⟩
    · split at hr
      · cases hr
      · exact .inr ⟨by assumption, by assumption, hr⟩
  refine ⟨?_, ?_, ?_⟩
  · intro r r' s m m' x x' h₁ h₂
    obtain ⟨y, -, g₁⟩ | ⟨-, -, g₁⟩ := source h₁ <;> obtain ⟨y', -, g₂⟩ | ⟨-, -, g₂⟩ := source h₂ <;> exact h.alike g₁ g₂
  · intro r s m x hr
    obtain ⟨y, -, hr⟩ | ⟨-, -, hr⟩ := source hr <;> exact h.fresh hr
  · intro k r v hr
    rw [get?_move d hp hq]
    obtain ⟨y, he, hv⟩ | ⟨hq', hp', hv⟩ := source hr
    · cases y with
      | nil =>
        obtain ⟨rfl, rfl⟩ := List.cons.inj he
        have h₁ : ¬ k :: r <:+ r := fun hs => absurd hs.length_le (by simp)
        have h₂ : ¬ p <:+ r := fun hs => hpq (hs.trans (List.suffix_cons k r))
        simpa [h₁, h₂] using hdir
      | cons z y =>
        obtain ⟨rfl, rfl⟩ := List.cons.inj he
        simpa using h.inside hv
    · have h₁ : ¬ n :: dir <:+ r := fun hs => hq' (hs.trans (List.suffix_cons k r))
      have h₂ : ¬ p <:+ r := fun hs => hp' (hs.trans (List.suffix_cons k r))
      simpa [h₁, h₂] using h.inside hv

theorem dir_above (h : d.Sound) {p q : Place} (hs : p <:+ q) (hne : p ≠ q) (hq : d.get? q ≠ none) : d.get? p = some .dir := by
  by_contra hp
  obtain ⟨y, rfl⟩ := hs
  refine hq (h.below hp y ?_)
  rintro rfl
  exact hne rfl

theorem move_leaf (h : d.Sound) {p : Place} {n : Name} {dir : Place} {v : Node} (hp : d.get? p = some v)
    (hleaf : v.isDir = false) (hdir : d.get? dir = some .dir) (hq : d.get? (n :: dir) ≠ some .dir) (hne : p ≠ n :: dir) :
    (d.move p (n :: dir)).Sound ∧
      ∀ r, (d.move p (n :: dir)).get? r = if r = n :: dir then some v else if r = p then none else d.get? r := by
  have hfile : d.get? p ≠ some .dir := by
    rw [hp]
    rintro ⟨⟩
    cases hleaf
  have hroot : p ≠ [] := by
    rintro rfl
    exact hfile rfl
  -- there is nothing below the file, and nothing below what it replaces
  have hpq : ¬ p <:+ n :: dir := by
    intro hs
    have hs' : p <:+ dir := (List.suffix_cons_iff.mp hs).resolve_left hne
    by_cases he : p = dir
    · exact hfile (he ▸ hdir)
    · exact hfile (h.dir_above hs' he (by simp [hdir]))
  have hqp : ¬ n :: dir <:+ p := fun hs => hq (h.dir_above hs (Ne.symm hne) (by simp [hp]))
  refine ⟨h.move hroot hdir hpq hqp, fun r => ?_⟩
  rw [get?_move d hroot (by simp)]
  by_cases hr : r = n :: dir
  · subst hr
    simp [hp]
  · rw [if_neg hr]
    split
    · rename_i hs
      obtain ⟨y, rfl⟩ := hs
      have hy : y ≠ [] := by
        rintro rfl
        exact hr rfl
      have hne' : y ++ n :: dir ≠ p := fun e => hqp ⟨y, e⟩
      simp [h.below hfile y hy, h.below hq y hy, hne']
    · by_cases hrp : r = p
      · subst hrp
        simp
      · rw [if_neg hrp]
        split
        · rename_i hs
          obtain ⟨y, rfl⟩ := hs
          have hy : y ≠ [] := by
            rintro rfl
            exact hrp rfl
          exact (h.below hfile y hy).symm
        · rfl

end Sound

section Check

variable {d : Disk}

theorem mem_of_get? {p : Place} {v : Node} (hp : p ≠ []) (h : d.get? p = some v) : (p, v) ∈ d.entries := by
  rw [get?_of_ne d hp] at h
  generalize d.entries = entries at h
  induction entries with
  | nil => cases h
  | cons e entries ih =>
    obtain ⟨q, w⟩ := e
    by_cases he : p = q
    · subst he
      obtain rfl : w = v := by simpa using h
      exact List.mem_cons_self ..
    · rw [lookup_other he] at h
      exact List.mem_cons_of_mem _ (ih h)

/-- A file among the entries has an old serial number, and is the same under all its names. -/
def isNumbered (d : Disk) : Node → Bool
  | .file s m x => s < d.next && d.entries.all fun e =>
    match e.2 with
    | .file s' m' x' => s ≠ s' || (m = m' && x = x')
    | _ => true
  | _ => true

def isSound (d : Disk) : Bool := d.entries.all fun e => d.get? e.1.tail = some .dir && d.isNumbered e.2

theorem sound_of_isSound (h : d.isSound = true) : d.Sound := by
  have hentry : ∀ {p v}, p ≠ [] → d.get? p = some v → d.get? p.tail = some .dir ∧ d.isNumbered v = true := by
    intro p v hp hv
    simpa using List.all_eq_true.mp h _ (mem_of_get? hp hv)
  have hfile : ∀ {p s m x}, d.get? p = some (.file s m x) → p ≠ [] := by
    rintro p s m x hv rfl
    cases hv
  refine ⟨fun {p q s m m' x x'} hp hq => ?_, fun {p s m x} hp => ?_, fun {n p v} hv => (hentry (by simp) hv).1⟩
  · obtain ⟨-, hnumber⟩ := hentry (hfile hp) hp
    simp only [isNumbered, Bool.and_eq_true] at hnumber
    simpa using List.all_eq_true.mp hnumber.2 _ (mem_of_get? (hfile hq) hq)
  · obtain ⟨-, hnumber⟩ := hentry (hfile hp) hp
    simp only [isNumbered, Bool.and_eq_true, decide_eq_true_eq] at hnumber
    exact hnumber.1

end Check

section Twins

variable {d : Disk} {p q : Place} {s m : Nat} {x : ByteArray}

theorem twins_iff : d.twins p q = true ↔
    ∃ s m m' x x', d.get? p = some (.file s m x) ∧ d.get? q = some (.file s m' x') := by
  unfold twins
  constructor
  · intro h
    split at h
    · rename_i s m x s' m' x' hp hq
      obtain rfl : s = s' := of_decide_eq_true h
      exact ⟨s, m, m', x, x', hp, hq⟩
    · cases h
  · rintro ⟨s, m, m', x, x', hp, hq⟩
    simp [hp, hq]

theorem twins_congr {d' : Disk} (hp : d'.get? p = d.get? p) (hq : d'.get? q = d.get? q) : d'.twins p q = d.twins p q := by
  rw [twins, twins, hp, hq]

theorem twins_of_file (hp : d.get? p = some (.file s m x)) : d.twins p q = true ↔ ∃ m' x', d.get? q = some (.file s m' x') := by
  rw [twins_iff]
  constructor
  · rintro ⟨s', m', m'', y, y', hp', hq⟩
    obtain ⟨rfl, -⟩ := Node.file.inj (Option.some.inj (hp.symm.trans hp'))
    exact ⟨m'', y', hq⟩
  · rintro ⟨m', x', hq⟩
    exact ⟨s, m, m', x, x', hp, hq⟩

theorem twins_symm (h : d.twins p q = true) : d.twins q p = true := by
  obtain ⟨s, m, m', x, x', hp, hq⟩ := twins_iff.mp h
  exact twins_iff.mpr ⟨s, m', m, x', x, hq, hp⟩

theorem twins_comm (d : Disk) (p q : Place) : d.twins p q = d.twins q p := Bool.eq_iff_iff.mpr ⟨twins_symm, twins_symm⟩

theorem Sound.twins_eq (h : d.Sound) (ht : d.twins p q = true) : d.get? q = d.get? p := by
  obtain ⟨s, m, m', x, x', hp, hq⟩ := twins_iff.mp ht
  obtain ⟨rfl, rfl⟩ := h.alike hp hq
  rw [hp, hq]

theorem not_twins (h : ∀ s m x, d.get? q ≠ some (.file s m x)) : d.twins p q = false := by
  rw [← Bool.not_eq_true, twins_iff]
  rintro ⟨s, -, m', -, x', -, hq⟩
  exact h s m' x' hq

def Lone (d : Disk) (p : Place) : Prop := ∀ q, d.twins p q = true → q = p

theorem Lone.not_twins (h : d.Lone p) (hq : q ≠ p) : d.twins p q = false := by
  rw [← Bool.not_eq_true]
  exact fun ht => hq (h q ht)

theorem lone_of_none (h : d.get? p = none) : d.Lone p := by
  intro q ht
  obtain ⟨s, m, m', x, x', hp, -⟩ := twins_iff.mp ht
  rw [h] at hp
  cases hp

theorem Lone.of_origin {d' : Disk} (h : d.Lone p) (hp : d'.get? p = d.get? p)
    (origin : ∀ q, q ≠ p → d'.get? q = none ∨ ∃ r, r ≠ p ∧ d'.get? q = d.get? r) : d'.Lone p := by
  intro q ht
  by_contra hq
  obtain ⟨s, m, m', x, x', hfile, hfile'⟩ := twins_iff.mp ht
  obtain hnone | ⟨r, hr, hsame⟩ := origin q hq
  · cases hnone.symm.trans hfile'
  · exact hr (h r (twins_iff.mpr ⟨s, m, m', x, x', hp ▸ hfile, hsame ▸ hfile'⟩))

theorem Lone.erase (h : d.Lone p) (hq : q ≠ []) (hne : p ≠ q) : (d.erase q).Lone p := by
  have hget := get?_erase d hq
  refine h.of_origin ((hget p).trans (if_neg hne)) fun r hr => ?_
  by_cases he : r = q
  · exact .inl ((hget r).trans (if_pos he))
  · exact .inr ⟨r, hr, (hget r).trans (if_neg he)⟩

theorem Lone.move {x y : Place} (h : d.Lone p) (hx : x ≠ []) (hy : y ≠ []) (hpx : ¬ x <:+ p) (hpy : ¬ y <:+ p) :
    (d.move x y).Lone p := by
  have hget := get?_move d hx hy
  refine h.of_origin (by rw [hget, if_neg hpy, if_neg hpx]) fun r hr => ?_
  rw [hget]
  split
  · refine .inr ⟨_, ?_, rfl⟩
    intro he
    exact hpx ⟨_, he⟩
  · split
    · exact .inl rfl
    · exact .inr ⟨r, hr, rfl⟩

theorem Lone.beside {d' : Disk} (h : d.Lone p) (hq : d'.Lone q) (hne : p ≠ q) (same : ∀ r, r ≠ q → d'.get? r = d.get? r) :
    d'.Lone p := by
  refine fun r ht => h r ?_
  have hr : r ≠ q := by
    rintro rfl
    exact hne (hq p (twins_symm ht))
  rwa [← twins_congr (same p hne) (same r hr)]

theorem Sound.lone_new (h : d.Sound) (hp : p ≠ []) (mode : Nat) (data : ByteArray) : (d.addFile p mode data).Lone p := by
  intro q ht
  have hget := get?_addFile d hp mode data
  by_contra hq
  obtain ⟨m', x', hv⟩ := (twins_of_file ((hget p).trans (if_pos rfl))).mp ht
  rw [hget, if_neg hq] at hv
  exact Nat.lt_irrefl _ (h.fresh hv)

end Twins

end Disk

end Provision
