import Provision.Proofs.Path

/-!
What a path is made of when it is read as a whole: where it starts, and its names without the blank ones. Behind a path
that is not empty a relative path only adds its names, so what a tilde stands for is never left, except that an absolute
path behind `~/` takes the place of it all.
-/

set_option autoImplicit false

namespace Provision.Path

inductive Component where
  | root
  /-- A `.` that the path starts with. -/
  | here
  | up
  | name (n : Name)
  deriving DecidableEq, Repr

def Component.ofName (n : Name) : Component := if n = ['.', '.'] then .up else .name n

theorem Component.ofName_ne_here (n : Name) : ofName n ≠ .here := by
  unfold ofName
  split <;> simp

def Start.components : Start → List Component
  | .bare => []
  | .root => [.root]
  | .here => [.here]

/-- Where the path starts, and its names. Slashes and dots that change nothing are left out. -/
def components (p : Path) : List Component := (parted p.chars).1.components ++ p.names.map .ofName

theorem names_eq (p : Path) : p.names = (segments p.chars).filter fun s => !isBlank s := by
  unfold names parted
  split
  · rename_i cs h
    simp [h, segments, isBlank]
  · rename_i h
    simp [h, segments, isBlank]
  · rename_i cs h
    simp [h, segments, isBlank]
  · rfl

theorem not_root_of_relative {p : Path} (h : p.isAbsolute = false) : (parted p.chars).1 ≠ .root := by
  unfold isAbsolute at h
  unfold parted
  split <;> simp_all

theorem behind_ne_nil (p : Path) {q : Path} (hq : q.chars ≠ []) : (p / q).chars ≠ [] := by
  show (Path.join _ _).chars ≠ []
  unfold join
  split
  · exact hq
  · split <;> simp [hq]

theorem steps_ne_nil {p : Path} (hp : p.chars ≠ []) (hrel : p.isAbsolute = false) : p.steps ≠ [] := by
  obtain ⟨cs⟩ := p
  cases cs with
  | nil => exact absurd rfl hp
  | cons c cs =>
    have hc : c ≠ '/' := by simpa [isAbsolute] using hrel
    obtain ⟨s, rest, hs⟩ := List.exists_cons_of_ne_nil (segments_ne_nil cs)
    simp [steps, segments, hc, hs]

theorem filter_steps (p : Path) : p.steps.filter (· ≠ ['.']) = p.names := by
  rw [steps, List.filter_filter, names_eq]
  refine List.filter_congr fun s _ => ?_
  by_cases hs : s = [] <;> simp [isBlank, hs]

theorem names_join (p : Path) {q : Path} (hq : q.isAbsolute = false) : (p / q).names = p.names ++ q.names := by
  rw [← filter_steps, steps_behind p hq, List.filter_append, filter_steps, filter_steps]

theorem mem_chars_iff {p : Path} {c : Char} (hslash : c ≠ '/') (hdot : c ≠ '.') :
    c ∈ p.chars ↔ ∃ n ∈ p.names, c ∈ n := by
  have hjoined : ∀ l : List Name, c ∈ joined l ↔ ∃ n ∈ l, c ∈ n := by
    intro l
    induction l with
    | nil => simp [joined]
    | cons n l ih => cases l <;> simp_all [joined]
  have hchars := hjoined (segments p.chars)
  rw [joined_segments] at hchars
  rw [hchars, names_eq]
  constructor
  · rintro ⟨n, hn, hc⟩
    refine ⟨n, List.mem_filter.mpr ⟨hn, ?_⟩, hc⟩
    have hempty : n ≠ [] := List.ne_nil_of_mem hc
    have hhere : n ≠ ['.'] := by
      rintro rfl
      exact hdot (List.mem_singleton.mp hc)
    simp [isBlank, hempty, hhere]
  · rintro ⟨n, hn, hc⟩
    exact ⟨n, List.mem_of_mem_filter hn, hc⟩

theorem parted_behind {c : List Char} (hc : c ≠ []) (cs : List Char) :
    parted (c ++ '/' :: cs) = ((parted c).1, (parted c).2 ++ '/' :: cs) := by
  rcases c with _ | ⟨a, c⟩
  · exact absurd rfl hc
  by_cases ha : a = '/'
  · subst ha
    rfl
  by_cases hd : a = '.'
  · subst hd
    rcases c with _ | ⟨b, c⟩
    · rfl
    by_cases hb : b = '/'
    · subst hb
      rfl
    · simp [parted, hb]
  · simp [parted, ha, hd]

theorem start_join {p q : Path} (hp : p.chars ≠ []) (hq : q.isAbsolute = false) :
    (parted (p / q).chars).1 = (parted p.chars).1 := by
  obtain ⟨c, -, hc | hc, h⟩ := join_eq p hp
  · rw [h q hq, hc, parted_behind (hc ▸ hp)]
  · rw [h q hq, hc]
    by_cases hne : c = []
    · subst hne
      rfl
    · rw [parted_behind hne, parted_behind hne]

theorem filter_components {p : Path} (hp : p.isAbsolute = false) :
    p.components.filter (· ≠ .here) = p.names.map .ofName := by
  have hnames : (p.names.map Component.ofName).filter (· ≠ .here) = p.names.map .ofName := by
    refine List.filter_eq_self.mpr fun c hc => ?_
    obtain ⟨n, -, rfl⟩ := List.mem_map.mp hc
    simpa using Component.ofName_ne_here n
  have hstart : (parted p.chars).1.components.filter (· ≠ .here) = [] := by
    cases hs : (parted p.chars).1 with
    | root => exact absurd hs (not_root_of_relative hp)
    | bare => rfl
    | here => rfl
  rw [components, List.filter_append, hstart, hnames, List.nil_append]

theorem components_join {p q : Path} (hp : p.chars ≠ []) (hq : q.isAbsolute = false) :
    (p / q).components = p.components ++ q.components.filter (· ≠ .here) := by
  rw [filter_components hq, components, start_join hp hq, names_join p hq, List.map_append, ← List.append_assoc]
  rfl

def tilded (separator : Char) (rest : List Char) : String := String.ofList ('~' :: separator :: rest)

theorem expandHome_tilded {separator : Char} (h : separator = '/' ∨ separator = '\\') (rest : List Char) (home : Path) :
    expandHome (tilded separator rest) (some home) = home / ⟨rest⟩ := by
  obtain rfl | rfl := h <;> simp [expandHome, tilded]

theorem expandHome_other {text : String} (home : Option Path) (h : text ≠ "~")
    (hsep : ∀ separator rest, separator = '/' ∨ separator = '\\' → text ≠ tilded separator rest) :
    expandHome text home = text := by
  unfold expandHome
  split
  · rename_i htext
    exact absurd (String.toList_inj.mp htext) h
  · rename_i separator rest home htext
    split
    · rename_i hc
      have htilded : text = tilded separator rest := by
        rw [tilded, ← htext, String.ofList_toList]
      exact absurd htilded (hsep separator rest (by simpa using hc))
    · rfl
  · rfl

theorem expandHome_none (text : String) : expandHome text none = text := by
  unfold expandHome
  split
  · contradiction
  · contradiction
  · rfl

/-- What a leading tilde is replaced by is never left by what stands behind it, unless that begins with a second slash:
then it is an absolute path, which takes the place of the home directory as well. A text without a leading tilde, or one
for which there is no home directory, stands for itself. -/
theorem expandHome_components (home : Path) :
    (∀ separator rest, separator = '/' ∨ separator = '\\' →
      let expanded := expandHome (tilded separator rest) (some home)
      if rest.head? = some '/' then expanded = ⟨rest⟩
      else
        expanded.components = home.components ++
            (if home.chars = [] then (⟨rest⟩ : Path).components else (⟨rest⟩ : Path).components.filter (· ≠ .here)) ∧
          home.components <+: expanded.components) ∧
    expandHome "~" (some home) = home ∧
    (∀ text : String, text ≠ "~" → (∀ separator rest, separator = '/' ∨ separator = '\\' → text ≠ tilded separator rest) →
      expandHome text (some home) = text) ∧
    ∀ text : String, expandHome text none = text := by
  refine ⟨fun separator rest h => ?_, rfl, fun text => expandHome_other (some home), expandHome_none⟩
  intro expanded
  have hexpanded : expanded = home / ⟨rest⟩ := expandHome_tilded h rest home
  rw [hexpanded]
  split
  · rename_i habs
    show Path.join _ _ = _
    simp [join, isAbsolute, habs]
  · rename_i hrel
    have hrel : (⟨rest⟩ : Path).isAbsolute = false := by simpa [isAbsolute] using hrel
    have hcomponents : (home / ⟨rest⟩ : Path).components = home.components ++
        (if home.chars = [] then (⟨rest⟩ : Path).components else (⟨rest⟩ : Path).components.filter (· ≠ .here)) := by
      split
      · rename_i hempty
        obtain rfl : home = ⟨[]⟩ := congrArg Path.mk hempty
        rw [join_empty]
        rfl
      · rename_i hne
        exact components_join hne hrel
    exact ⟨hcomponents, hcomponents ▸ List.prefix_append _ _⟩

/-- A second slash behind the tilde leaves the home directory for the root. -/
theorem expandHome_leaves_home : ¬ (⟨"/home/u".toList⟩ : Path).components <+:
    (expandHome (tilded '/' "/etc".toList) (some "/home/u")).components := by
  decide

end Provision.Path
